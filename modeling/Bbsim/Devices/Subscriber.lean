import Bbsim.Devices.Onu
import Bbsim.Responders.Dhcp
import Bbsim.Responders.Eapol
import Bbsim.Responders.Igmp

/-! What a service sends. The loops of a service with the responders behind them: the messages that
start an exchange, and the packets that come in. A stream that does not take a packet is an argument
here. -/

namespace Bbsim.Devices

open Responders

/-- A service with what it reads from its UNI, its ONU, the PON and the OLT. -/
structure Subscriber where
  oltId : Int
  ponPortId : UInt32
  onuId : UInt32
  uniId : UInt32
  portNo : UInt32
  /-- The VLAN that a group was joined on. -/
  groupVlan : String → Int
  service : Service

namespace Subscriber

def withEapol (subscriber : Subscriber) (state : EapolState) : Subscriber :=
  { subscriber with service := { subscriber.service with eapolState := state } }

def withDhcp (subscriber : Subscriber) (state : DhcpState) : Subscriber :=
  { subscriber with service := { subscriber.service with dhcpState := state } }

/-- The ids are those of the message that carried the packet. -/
def eapolCaller (subscriber : Subscriber) (intfId onuId : UInt32) : Eapol.Caller where
  onuId := onuId
  ponPortId := intfId
  gemPortId := subscriber.service.gemPort
  portNo := subscriber.portNo
  uniId := subscriber.uniId
  serviceId := subscriber.service.id
  oltId := subscriber.oltId

def eapStart (subscriber : Subscriber) : PacketIndication :=
  Eapol.eapStart subscriber.onuId subscriber.ponPortId subscriber.portNo
    subscriber.service.hwAddress subscriber.service.gemPort subscriber.uniId

/-- `HandleChannel` on a `StartEAPOL` message. -/
def handleEapolStart (subscriber : Subscriber) (sends : Bool) :
    Subscriber × Option PacketIndication :=
  let (state, succeeded) := Eapol.sendEapStart subscriber.service.eapolState sends
  (subscriber.withEapol (if succeeded then state else Eapol.fire state .authFailed),
    if sends then some subscriber.eapStart else none)

/-- The `start_auth` event with the message it sends; `none` where nobody takes the message. A refused
event changes nothing. -/
def startAuth (subscriber : Subscriber) (sends : Bool) :
    Option (Subscriber × Option (Option PacketIndication)) :=
  match subscriber.service.eapolState.after .startAuth with
  | none => some (subscriber, none)
  | some state =>
    if subscriber.service.channel = .served then
      let (started, sent) := (subscriber.withEapol state).handleEapolStart sends
      some (started, some sent)
    else none

/-- `HandlePackets` on an EAPOL packet. -/
def handleEapolPacket (subscriber : Subscriber) (md5 : List UInt8 → List UInt8)
    (intfId onuId : UInt32) (sends : Bool) (packet : EapolPacket) :
    Except Eapol.Fault (Subscriber × Option PacketIndication) :=
  (Eapol.handleNextPacket md5 (subscriber.eapolCaller intfId onuId) subscriber.service.eapolState
    sends packet).map fun (state, sent) => (subscriber.withEapol state, sent)

def dhcpCaller (subscriber : Subscriber) : Dhcp.Caller where
  onuId := subscriber.onuId
  ponPortId := subscriber.ponPortId
  portNo := subscriber.portNo
  tag := subscriber.service.dhcpTag.1
  gemPortId := subscriber.service.gemPort
  uniId := subscriber.uniId
  hwAddress := subscriber.service.hwAddress
  pbit := subscriber.service.dhcpTag.2

/-- `HandleChannel` on a `StartDHCP` message. -/
def handleDHCPStart (subscriber : Subscriber) (sends : Bool) :
    Subscriber × Option PacketIndication :=
  let (state, succeeded) := Dhcp.sendDHCPDiscovery subscriber.service.dhcpState sends
  (subscriber.withDhcp (if succeeded then state else Dhcp.fire state .failed),
    if sends then some subscriber.dhcpCaller.discovery else none)

/-- The `start_dhcp` event with the message it sends. -/
def startDhcp (subscriber : Subscriber) (sends : Bool) :
    Option (Subscriber × Option (Option PacketIndication)) :=
  match subscriber.service.dhcpState.after .start with
  | none => some (subscriber, none)
  | some state =>
    if subscriber.service.channel = .served then
      let (started, sent) := (subscriber.withDhcp state).handleDHCPStart sends
      some (started, some sent)
    else none

/-- `HandlePackets` on a DHCP packet. -/
def handleDhcpPacket (subscriber : Subscriber) (sends : Bool) (packet : Option DhcpLayer) :
    Subscriber × Option PacketIndication :=
  let (state, sent) :=
    Dhcp.handleNextPacket subscriber.dhcpCaller subscriber.service.dhcpState sends packet
  (subscriber.withDhcp state, sent)

def igmpCaller (subscriber : Subscriber) (cTag : Int) : Igmp.Caller where
  ponPortId := subscriber.ponPortId
  onuId := subscriber.onuId
  portNo := subscriber.portNo
  uniId := subscriber.uniId
  gemPortId := subscriber.service.gemPort
  macAddress := subscriber.service.hwAddress
  cTag := cTag
  pbit := subscriber.service.usPonCTagPriority

/-- `HandlePackets` on an IGMP packet. -/
def handleIgmpPacket (subscriber : Subscriber) (packet : Igmp.IgmpPacket) :
    Except Igmp.Fault (List PacketIndication) :=
  Igmp.handleNextPacket (subscriber.igmpCaller subscriber.service.cTag)
    (subscriber.service.groupAddresses.map fun group => (group, subscriber.groupVlan group)) packet

/-- A service of an ONU. -/
def of (oltId : Int) (groupVlan : String → Int) (onu : Onu) (uni : UniPort) (service : Service) :
    Subscriber where
  oltId := oltId
  ponPortId := onu.ponPortId
  onuId := onu.id
  uniId := uni.id
  portNo := uni.portNo
  groupVlan := groupVlan
  service := service

/-- A new service on the first UNI of ONU 1 on PON 0. -/
def fresh : Subscriber where
  oltId := 0
  ponPortId := 0
  onuId := 1
  uniId := 0
  portNo := 16
  groupVlan := fun _ => 900
  service := Service.create 0 "hsia" [0x2e, 0, 0, 1, 0, 0] 900 900 true true true 0 0

end Subscriber

end Bbsim.Devices
