import TrackerGateway.Proofs.Egts.Course
import TrackerGateway.Proofs.Egts.Fatality

/-!
# Units of a decoder that keeps sessions by connection

No record ends such a unit (`Run.Plain.takePackets_of_byConnection`). So all its packets have
their turns, also where the unit as a whole fails because what comes after them is no packet
(`decode_eq_of_byConnection`).
-/

namespace TrackerGateway.Egts.Decoder

namespace Run

variable {δ μ : Type}

theorem Takes.reaches {run : Run δ μ} {answers : List Answer} {sessions : Sessions δ}
    {found : List Position} {result : Option Error × Run δ μ}
    (taken : run.Takes answers sessions found result) (calm : result.1 = none) :
    run.Reaches answers sessions found result.2 := by
  cases taken with
  | through reached => exact reached
  | fatal => cases calm

variable [Directory δ]

theorem Plain.takePackets_of_byConnection {run : Run δ μ} (plain : run.Plain .byConnection)
    (connection : ConnectionId) (packets : List Packet) :
    (run.takePackets connection packets).1 = none := by
  cases failed : (run.takePackets connection packets).1 with
  | none => rfl
  | some error =>
    obtain ⟨mode, -⟩ := plain.misconfigured_of_takePackets failed
    cases mode

end Run

variable {δ μ : Type} [Directory δ]

/-- Whatever a unit is, all packets that can be read off it have their turns. The positions are
told unless what comes after the packets is none. -/
theorem decode_eq_of_byConnection {decoder : Decoder} {services : Services δ μ}
    (mode : decoder.mode = .byConnection) (reliable : Directory.Reliable services.directory)
    (connection : ConnectionId) (bytes : Bytes) :
    let packets := (Packet.readAll bytes).1
    let subjects := packets.flatMap Packet.subjects
    let sessions : Sessions δ := (services.registry, services.directory)
    ∃ run' : Run δ μ,
      Run.Reaches ⟨decoder, services, []⟩ (packets.flatMap Packet.answers)
        (Turn.outcome .byConnection connection sessions subjects)
        (Turn.positions .byConnection connection sessions subjects) run' ∧
      decoder.decode services connection bytes =
        (match (Packet.readAll bytes).2 with
          | some fault => .error (.protocol fault)
          | none => .ok run'.positions, run'.decoder, run'.services) := by
  intro packets subjects sessions
  let run : Run δ μ := ⟨decoder, services, []⟩
  have plain : run.Plain .byConnection := ⟨mode, reliable.plain⟩
  have calm : (run.takePackets connection packets).1 = none :=
    plain.takePackets_of_byConnection connection packets
  have reached := (run.takes_takePackets reliable connection packets).reaches calm
  rw [show run.decoder.mode = .byConnection from mode] at reached
  refine ⟨(run.takePackets connection packets).2, reached, ?_⟩
  simp only [decode]
  rw [show (Run.takePackets ⟨decoder, services, []⟩ connection (Packet.readAll bytes).1).1 = none
    from calm]
  cases (Packet.readAll bytes).2 <;> rfl

end TrackerGateway.Egts.Decoder
