import TorGo.L3Circuit.Circuit
import TorGo.L4Stream.Stream

/-!
# A circuit on its link as a `CircuitPort`

The stream package holds a `*circuit.Circuit`; `linkPort` is that circuit
with its link, seen through the three calls the package makes. `rnd` is
what `rand.Read` gives the padding of every relay cell it sends.

Results:
* `linkPort_send_ok`: on a circuit with a hop every send of a relay cell's
  worth of data succeeds, and the circuit keeps its hops;
* `linkPort_backwardDigest_send`: sending leaves the backward digest as it
  was, so SENDMEs sent back to back carry the same digest;
* the port's digest guarantee: a relay message is only received through a
  hop (`receiveRelay_ok_hops`), whose backward digest has 20 bytes or more
  (`backwardDigest_length`).
-/
namespace TorGo.L4

open TorGo.L1 TorGo.L3

/-- The circuit and its link, through `SendRelay`, `ReceiveRelay` and
`BackwardDigest`; the bytes still to arrive bound the reads left. -/
def linkPort (rnd : Nat → UInt8) : CircuitPort (Circuit × Link) where
  sendRelay := fun cl cmd sid data => sendRelay cl.1 cl.2 cmd sid data rnd
  receiveRelay := fun cl => receiveRelay cl.1 cl.2
  backwardDigest := fun cl => backwardDigest cl.1
  pending := fun cl => cl.2.inbound.length
  receiveRelay_pending := fun _ _ _ h => receiveRelay_ok_length h
  receiveRelay_digest := fun cl _ cl' h => by
    have h' : receiveRelay cl.1 cl.2 = (.ok _, cl') := h
    have := backwardDigest_length (receiveRelay_ok_hops (congrArg Prod.fst h'))
    rwa [h'] at this
  sendRelay_digest := fun cl cmd sid data h => by
    show 20 ≤ (backwardDigest (sendRelay cl.1 cl.2 cmd sid data rnd).2.1).length
    rwa [backwardDigest_sendRelay]

/-- On a circuit with a hop, every send of at most 498 data bytes succeeds
and leaves a circuit with a hop. -/
theorem linkPort_send_ok (rnd : Nat → UInt8) (cl : Circuit × Link) (cmd : UInt8) (sid : UInt16) (data : Bytes)
    (hc : cl.1.hops ≠ []) (hd : data.length ≤ maxRelayDataLen) :
    ((linkPort rnd).sendRelay cl cmd sid data).1 = .ok () ∧ ((linkPort rnd).sendRelay cl cmd sid data).2.1.hops ≠ [] := by
  refine ⟨(sendRelay_ok cl.1 cl.2 cmd sid data rnd hc hd).1, fun h => hc ?_⟩
  have := congrArg List.length (sendRelay_back cl.1 cl.2 cmd sid data rnd)
  simp only [List.length_map] at this
  exact List.length_eq_zero.mp (this ▸ List.length_eq_zero.mpr h)

theorem linkPort_backwardDigest_send (rnd : Nat → UInt8) (cl : Circuit × Link) (cmd : UInt8)
    (sid : UInt16) (data : Bytes) :
    (linkPort rnd).backwardDigest ((linkPort rnd).sendRelay cl cmd sid data).2 =
      (linkPort rnd).backwardDigest cl :=
  backwardDigest_sendRelay cl.1 cl.2 cmd sid data rnd

end TorGo.L4
