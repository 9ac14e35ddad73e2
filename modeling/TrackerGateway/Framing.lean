import TrackerGateway.Bytes.Basic
import TrackerGateway.Error

/-!
# Cutting a byte stream into units

A `Framing` looks at the octets received and not yet used. It hands over one unit with what comes
after it, or waits for more, or fails; a unit always uses up at least one octet. `drain` takes all
units that are there, and `feed` appends what a peer sent and drains.
-/

namespace TrackerGateway

namespace Framing

/-- One look at the octets received. -/
inductive Step where
  /-- A unit, and the octets after it. -/
  | unit (unit rest : Bytes)
  /-- More octets are needed after these. -/
  | wait (rest : Bytes)
  /-- The stream cannot be cut; these octets are left. -/
  | failed (error : Error) (rest : Bytes)
  deriving DecidableEq, Repr

/-- The units cut off a buffer, what is left in it, and why cutting ended if it failed. -/
structure Drained where
  units : List Bytes
  rest : Bytes
  failure : Option Error
  deriving DecidableEq, Repr

end Framing

/-- A way to cut a byte stream into units. -/
structure Framing where
  step : Bytes → Framing.Step
  /-- A unit uses up octets. -/
  shorter : ∀ {buffer unit rest : Bytes}, step buffer = .unit unit rest →
    rest.length < buffer.length

namespace Framing

/-- All units of a buffer. -/
def drain (framing : Framing) (buffer : Bytes) : Drained :=
  match h : framing.step buffer with
  | .unit unit rest =>
    have := framing.shorter h
    let drained := framing.drain rest
    { drained with units := unit :: drained.units }
  | .wait rest => ⟨[], rest, none⟩
  | .failed error rest => ⟨[], rest, some error⟩
termination_by buffer.length

/-- The units of a buffer after one more chunk came in. -/
def feed (framing : Framing) (buffer chunk : Bytes) : Drained := framing.drain (buffer ++ chunk)

theorem drain_of_unit {framing : Framing} {buffer unit rest : Bytes}
    (h : framing.step buffer = .unit unit rest) :
    framing.drain buffer =
      { framing.drain rest with units := unit :: (framing.drain rest).units } := by
  rw [drain]
  split
  · rename_i u r h'
    rw [h] at h'
    cases h'
    rfl
  · rename_i r h'
    rw [h] at h'
    cases h'
  · rename_i e r h'
    rw [h] at h'
    cases h'

theorem drain_of_wait {framing : Framing} {buffer rest : Bytes}
    (h : framing.step buffer = .wait rest) : framing.drain buffer = ⟨[], rest, none⟩ := by
  rw [drain]
  split <;> rename_i h' <;> rw [h] at h' <;> cases h'
  rfl

theorem drain_of_failed {framing : Framing} {buffer rest : Bytes} {error : Error}
    (h : framing.step buffer = .failed error rest) :
    framing.drain buffer = ⟨[], rest, some error⟩ := by
  rw [drain]
  split <;> rename_i h' <;> rw [h] at h' <;> cases h'
  rfl

end Framing
end TrackerGateway
