import TrackerGateway.Proofs.Egts.Order
import TrackerGateway.Proofs.Gateway.Routing
import TrackerGateway.Proofs.Watch.Device

/-!
# Units that settle

What watches send settles unless the media store refuses it (`settles_of_watch`), and a unit of
packets does if no terminal says who it is after another has said where it was
(`settles_of_ordered`). So these leave their connection with the device of its session.
-/

namespace TrackerGateway

namespace Gateway

variable {δ μ : Type} [Directory δ] [MediaStore μ] {g : Gateway δ μ} {id : ConnectionId}
  {c : Connection}

theorem accords_of_forall {before after : Option DeviceId} {positions : List Position}
    (h : ∀ p ∈ positions, after = some p.deviceId) : Accords before after (.ok positions) := by
  intro device told
  obtain ⟨p, member, isOf⟩ := exists_of_latest? told
  unfold Position.device? at isOf
  split at isOf
  · rw [h p member, ← isOf]
  · cases isOf

/-- What watches send settles as long as the media store takes what they bring, whatever the
directory answers. -/
theorem settles_of_watch {peer : Watch.Peer} (isOpen : g.connection? id = some c)
    (watch : c.decoder = .watch peer)
    (stores : ∀ uniqueId data extension,
      (MediaStore.store g.services.media uniqueId data extension).1.isOk = true)
    (receivedAt : Instant) (unit : Bytes) : g.Settles id receivedAt unit := by
  have outcome := peer.decode_outcome stores id receivedAt unit
  obtain ⟨⟨result, peer', services⟩, decoded⟩ :
      ∃ outcome, peer.decode g.services id receivedAt unit = outcome := ⟨_, rfl⟩
  rw [decoded] at outcome
  have whole : c.decoder.decode g.services id receivedAt unit =
      (result, .watch peer', services) := by
    rw [watch, Decoder.decode, decoded]
  rw [settles_of_open isOpen whole]
  cases result with
  | ok positions => exact accords_of_forall outcome
  | error error => exact .inr outcome

/-- A store that refuses everything. -/
structure FullStore where

instance : MediaStore FullStore := ⟨fun full _ _ _ => (.error (.media "disk full"), full)⟩

/-- If the store refuses the voice in a watch's first frame, the connection has the session of a
device that it does not serve. -/
theorem not_settles_of_refusal :
    ¬ ((start (fun _ => .default) (fun _ : String => Lookup.known ⟨7⟩) FullStore.mk).accept .watch
      .tcp ⟨0, .v4 [127, 0, 0, 1] 40000⟩).2.Settles ⟨0⟩ ⟨0, 0⟩
        "[3G*8308373902*0005*TK,ab]".toUTF8.toList := by
  decide +kernel

/-- A unit of packets settles, unless it fails, if no terminal says who it is after another has said
where it was, whatever the directory answers. -/
theorem settles_of_ordered {state : Egts.Decoder} {unit : Bytes}
    (isOpen : g.connection? id = some c) (packets : c.decoder = .egts state)
    (mode : state.mode = .byConnection) (ordered : Egts.Record.Ordered (Egts.records unit))
    (ok : (state.decode g.services id unit).1.isOk = true) (receivedAt : Instant) :
    g.Settles id receivedAt unit := by
  obtain ⟨⟨result, state', services⟩, decoded⟩ :
      ∃ outcome, state.decode g.services id unit = outcome := ⟨_, rfl⟩
  have whole : c.decoder.decode g.services id receivedAt unit =
      (result, .egts state', services) := by
    rw [packets, Decoder.decode, decoded]
  rw [settles_of_open isOpen whole]
  cases result with
  | ok positions => exact accords_of_forall (Egts.Decoder.deviceId_of_decode mode ordered decoded)
  | error error =>
    rw [decoded] at ok
    cases ok

end Gateway
end TrackerGateway
