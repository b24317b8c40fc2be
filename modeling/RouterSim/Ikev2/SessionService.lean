import RouterSim.Ikev2.Packet
import RouterSim.Ikev2.Sa

/-! The sessions of one IKE service, and the session a received datagram is for. -/
namespace RouterSim.Ikev2

structure SessionServiceConfiguration where
  maximumSessions : Nat := 0
  maximumPayloadsPerMessage : Nat := 0
  retransmission : RetransmissionPolicy := {}

inductive UdpInboundKind
  | ike | esp | natKeepalive

structure UdpInboundDatagram where
  kind : UdpInboundKind := .ike
  bytes : List (BitVec 8) := []

inductive InboundDispatchKind
  | newIkeSaInit | sessionRequestCandidate | sessionResponseCandidate | natKeepalive | espForIpsec
  | malformed | unknownSession | roleMismatch | messageIdRejected | resourceExhausted
  deriving DecidableEq

structure InboundDispatch where
  kind : InboundDispatchKind := .malformed
  header : Header := {}
  payloads : List PayloadView := []
  ikeSaId : BitVec 64 := 0#64
  cachedResponseToken : BitVec 64 := 0#64

structure SessionRecord where
  sa : Sa
  requests : RequestTracker := {}
  responses : ResponderMessageIds := {}
  deriving DecidableEq

structure SessionService where
  configuration : SessionServiceConfiguration
  sessions : List SessionRecord := []
  valid : Bool := false

namespace SessionService

def create (configuration : SessionServiceConfiguration) : SessionService :=
  { configuration
    valid := configuration.maximumSessions ≠ 0 ∧ configuration.maximumPayloadsPerMessage ≠ 0 }

/-- An id and a pair of SPIs may be in the service once. -/
def add (service : SessionService) (session : Sa) : SessionService × Bool :=
  if !service.valid || session.id == 0#64 ||
      decide (service.configuration.maximumSessions ≤ service.sessions.length) ||
      service.sessions.any fun record => record.sa.id == session.id ||
        (record.sa.spis.initiator == session.spis.initiator &&
          record.sa.spis.responder == session.spis.responder &&
          session.spis.initiator != 0#64) then (service, false)
  else
    ({ service with sessions := service.sessions ++
        [{ sa := session, requests := { policy := service.configuration.retransmission } }] },
      true)

def receive (service : SessionService) (datagram : UdpInboundDatagram) : InboundDispatch :=
  if !service.valid then { kind := .resourceExhausted }
  else
    match datagram.kind with
    | .natKeepalive => { kind := .natKeepalive }
    | .esp => { kind := .espForIpsec }
    | .ike =>
      let parsed := parse datagram.bytes service.configuration.maximumPayloadsPerMessage
      if parsed.status = .payloadCapacityExhausted then { kind := .resourceExhausted }
      else if parsed.status ≠ .ok then { kind := .malformed }
      else
        let header := parsed.header
        let payloads := parsed.payloads
        if !header.response && header.exchangeType == exchangeIkeSaInit &&
            header.responderSpi == 0#64 && header.messageId == 0#32 then
          { kind := .newIkeSaInit, header, payloads }
        else
          match service.sessions.find? fun record =>
              record.sa.spis.initiator == header.initiatorSpi &&
                record.sa.spis.responder == header.responderSpi with
          | none => { kind := .unknownSession, header, payloads }
          | some found =>
            let peerIsOriginalInitiator := found.sa.role == .responder
            if header.initiator != peerIsOriginalInitiator then
              { kind := .roleMismatch, header, payloads, ikeSaId := found.sa.id }
            else if header.response then
              { kind := .sessionResponseCandidate, header, payloads, ikeSaId := found.sa.id }
            else { kind := .sessionRequestCandidate, header, payloads, ikeSaId := found.sa.id }

end SessionService

end RouterSim.Ikev2
