import TrackerGateway.Session.Registry
import TrackerGateway.Media

/-!
# What a decoder may use beside its own state

It has the registry with its directory, the media store, and the queue of replies to the peer.
-/

namespace TrackerGateway

/-- What all decoders share, and the replies of the one at work. -/
structure Services (δ μ : Type) where
  registry : Registry
  directory : δ
  media : μ
  /-- Replies in the order in which they were queued. -/
  replies : List Bytes

namespace Services

variable {δ μ : Type}

/-- Queues a reply. -/
def respond (s : Services δ μ) (reply : Bytes) : Services δ μ :=
  { s with replies := s.replies ++ [reply] }

/-- The session for a unit. -/
def resolve [Directory δ] (s : Services δ μ) (mode : SessionMode) (connection : ConnectionId)
    (identifier : Option String) : Except Error (Option Session) × Services δ μ :=
  let (result, registry, directory) := s.registry.resolve s.directory mode connection identifier
  (result, { s with registry, directory })

/-- Stores data of a device. -/
def store [MediaStore μ] (s : Services δ μ) (uniqueId : String) (data : Bytes)
    (extension : String) : Except Error String × Services δ μ :=
  let (result, media) := MediaStore.store s.media uniqueId data extension
  (result, { s with media })

end Services
end TrackerGateway
