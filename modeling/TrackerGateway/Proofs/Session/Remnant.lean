import TrackerGateway.Proofs.Session.Calls
import TrackerGateway.Proofs.Session.Resemblance

/-!
# What a look-up leaves that finds no session

It leaves no session and no number. An identifier that the directory does not know is taken off
the record again. One for which the directory failed stays there without a number
(`Registry.HasRemnant`), and of all that can be asked of the registry later only `evict` tells,
which says that there was something to remove (`Sessions.reactions_of_unresolved`).
-/

namespace TrackerGateway

/-- What can be asked of a registry, with the questions that change nothing. -/
inductive Inquiry (δ : Type) where
  | call (c : Call δ)
  | sessionOf (connection : ConnectionId)
  | activeCount
  | lastPosition (device : DeviceId)

/-- The identifier that the registry is to forget. -/
def Inquiry.evicted? {δ : Type} : Inquiry δ → Option String
  | .call ⟨_, .evict uniqueId⟩ => some uniqueId
  | _ => none

inductive Reply where
  | response (response : Response)
  | session (found : Option Session)
  | count (sessions : Nat)
  | position (found : Option Position)

/-- What can be seen of a registry that is asked: its reply, what it logs meanwhile, and how often
it asks its directory. -/
structure Reaction where
  reply : Reply
  events : List SessionEvent
  lookups : Nat

/-! ### Registries that cannot be told apart -/

namespace Registry

section

variable {apart : String → Prop} {r r' : Registry} (h : r.Resembles apart r')
include h

theorem Resembles.release (connection : ConnectionId) :
    (r'.release connection).1 = (r.release connection).1 ∧
      Parallel apart r r' (r.release connection).2 (r'.release connection).2 := by
  unfold Registry.release
  rw [h.connections]
  split
  · exact ⟨rfl, ⟨rfl, h.identifiers, h.lastPositions, h.identities⟩, ⟨[_], rfl, rfl⟩, ⟨0, rfl, rfl⟩⟩
  · exact ⟨rfl, h.parallel⟩

theorem Resembles.evict (uniqueId : String) :
    (¬ apart uniqueId → (r'.evict uniqueId).1 = (r.evict uniqueId).1) ∧
      Parallel apart r r' (r.evict uniqueId).2 (r'.evict uniqueId).2 := by
  constructor
  · intro spared
    simp only [Registry.evict, h.identifiers, h.identities.holds uniqueId spared]
  · have identifiers := congrArg (Table.erase · uniqueId) h.identifiers
    have identities := h.identities.erase uniqueId
    exact ⟨⟨h.connections, identifiers, h.lastPositions, identities⟩, h.parallel.events,
      ⟨0, rfl, rfl⟩⟩

theorem Resembles.updateLast (position : Position) :
    Parallel apart r r' (r.updateLast position) (r'.updateLast position) := by
  unfold Registry.updateLast
  split
  · have lastPositions := congrArg (Table.put · position.deviceId position) h.lastPositions
    exact ⟨⟨h.connections, h.identifiers, lastPositions, h.identities⟩, h.parallel.events,
      ⟨0, rfl, rfl⟩⟩
  · exact h.parallel

/-- Nothing is left apart if no identifier is that may be. -/
theorem Resembles.whole (same : ∀ uniqueId, apart uniqueId →
      Table.holds r'.identities uniqueId = Table.holds r.identities uniqueId) :
    r.Resembles (fun _ => False) r' := by
  refine ⟨h.connections, h.identifiers, h.lastPositions, h.identities.number, fun uniqueId _ => ?_⟩
  by_cases free : apart uniqueId
  · exact same uniqueId free
  · exact h.identities.holds uniqueId free

end

end Registry

namespace Sessions

variable {δ : Type} [Directory δ]

def inquire (s : Sessions δ) : Inquiry δ → Reaction × Sessions δ
  | .call c =>
    let (response, after) := s.call c
    (⟨.response response, after.1.events.drop s.1.events.length, after.1.lookups - s.1.lookups⟩,
      after)
  | .sessionOf connection => (⟨.session (s.1.sessionOf? connection), [], 0⟩, s)
  | .activeCount => (⟨.count s.1.activeCount, [], 0⟩, s)
  | .lastPosition device => (⟨.position (s.1.lastPosition? device), [], 0⟩, s)

/-- What can be seen of sessions that are asked one thing after the other. -/
def reactions (s : Sessions δ) : List (Inquiry δ) → List Reaction
  | [] => []
  | inquiry :: rest => (s.inquire inquiry).1 :: reactions (s.inquire inquiry).2 rest

theorem length_reactions (s : Sessions δ) (inquiries : List (Inquiry δ)) :
    (s.reactions inquiries).length = inquiries.length := by
  induction inquiries generalizing s with
  | nil => rfl
  | cons inquiry rest ih => rw [reactions, List.length_cons, List.length_cons, ih]

variable {apart : String → Prop} {r r' : Registry}

theorem call_of_resembles (h : r.Resembles apart r') (directory : δ) (c : Call δ) :
    ((∀ uniqueId, c.operation = .evict uniqueId → ¬ apart uniqueId) →
        (call (r', directory) c).1 = (call (r, directory) c).1) ∧
      (call (r', directory) c).2.2 = (call (r, directory) c).2.2 ∧
      Registry.Parallel apart r r' (call (r, directory) c).2.1 (call (r', directory) c).2.1 := by
  obtain ⟨change, operation⟩ := c
  cases operation with
  | resolve mode connection identifier =>
    obtain ⟨result, after, changed⟩ := h.resolve (change directory) mode connection identifier
    exact ⟨fun _ => congrArg Response.ofResult result, after, changed⟩
  | release connection =>
    obtain ⟨any, changed⟩ := h.release connection
    exact ⟨fun _ => congrArg Response.removed any, rfl, changed⟩
  | evict uniqueId =>
    obtain ⟨any, changed⟩ := h.evict uniqueId
    exact ⟨fun spared => congrArg Response.removed (any (spared uniqueId rfl)), rfl, changed⟩
  | updateLast position => exact ⟨fun _ => rfl, rfl, h.updateLast position⟩

theorem inquire_of_resembles (h : r.Resembles apart r') (directory : δ) (inquiry : Inquiry δ) :
    ((∀ uniqueId, inquiry.evicted? = some uniqueId → ¬ apart uniqueId) →
        (inquire (r', directory) inquiry).1 = (inquire (r, directory) inquiry).1) ∧
      (inquire (r', directory) inquiry).2.2 = (inquire (r, directory) inquiry).2.2 ∧
      (inquire (r, directory) inquiry).2.1.Resembles apart
          (inquire (r', directory) inquiry).2.1 := by
  cases inquiry with
  | call c =>
    obtain ⟨response, after, changed⟩ := call_of_resembles h directory c
    refine ⟨fun spared => ?_, after, changed.resembles⟩
    obtain ⟨events, logged, logged'⟩ := changed.events
    obtain ⟨lookups, asked, asked'⟩ := changed.lookups
    have same : (call (r', directory) c).1 = (call (r, directory) c).1 := by
      refine response fun uniqueId evicts => spared uniqueId ?_
      obtain ⟨change, operation⟩ := c
      cases evicts
      rfl
    simp only [inquire, same, logged, logged', asked, asked', List.drop_left,
      Nat.add_sub_cancel_left]
  | sessionOf connection =>
    simp only [inquire, Registry.sessionOf?, h.connections]
    exact ⟨fun _ => trivial, trivial, h⟩
  | activeCount =>
    simp only [inquire, Registry.activeCount, h.connections, h.identifiers]
    exact ⟨fun _ => trivial, trivial, h⟩
  | lastPosition device =>
    simp only [inquire, Registry.lastPosition?, h.lastPositions]
    exact ⟨fun _ => trivial, trivial, h⟩

/-- Registries that resemble each other react alike to all that comes, but where they are to
forget an identifier that they may hold apart. -/
theorem reactions_of_resembles (h : r.Resembles apart r') {directory : δ}
    {inquiries : List (Inquiry δ)} {place : Nat} {inquiry : Inquiry δ}
    (there : inquiries[place]? = some inquiry)
    (spared : ∀ uniqueId, inquiry.evicted? = some uniqueId → ¬ apart uniqueId) :
    (reactions (r', directory) inquiries)[place]? =
        (reactions (r, directory) inquiries)[place]? := by
  induction inquiries generalizing r r' directory place with
  | nil => cases there
  | cons first rest ih =>
    obtain ⟨reaction, same, resembles⟩ := inquire_of_resembles h directory first
    rw [reactions, reactions]
    generalize inquire (r, directory) first = made at reaction same resembles ⊢
    generalize inquire (r', directory) first = made' at reaction same resembles ⊢
    obtain ⟨seen, after, left⟩ := made
    obtain ⟨seen', after', left'⟩ := made'
    cases same
    cases place with
    | zero =>
      cases there
      exact congrArg some (reaction spared)
    | succ place => exact ih resembles there

/-- Registries that hold nothing apart cannot be told apart. -/
theorem reactions_eq_of_resembles (h : r.Resembles (fun _ => False) r') (directory : δ)
    (inquiries : List (Inquiry δ)) :
    reactions (r', directory) inquiries = reactions (r, directory) inquiries := by
  refine List.ext_getElem? fun place => ?_
  cases there : inquiries[place]? with
  | some inquiry => exact reactions_of_resembles h there fun _ _ => id
  | none =>
    have beyond := List.getElem?_eq_none_iff.1 there
    rw [List.getElem?_eq_none (by rwa [length_reactions]),
      List.getElem?_eq_none (by rwa [length_reactions])]

end Sessions

/-! ### Look-ups that find nothing -/

namespace Registry

/-- Whether an identifier is on record without a number. -/
def HasRemnant (r : Registry) (uniqueId : String) : Prop :=
  Table.get? r.identities uniqueId = some none

theorem hasRemnant_iff_of_new {r : Registry} {uniqueId : String}
    (new : r.identity? uniqueId = none) :
    r.HasRemnant uniqueId ↔ Table.holds r.identities uniqueId = true := by
  rw [identity?] at new
  rw [HasRemnant, Table.holds]
  generalize Table.get? r.identities uniqueId = kept at new ⊢
  rcases kept with _ | _ | id
  · simp
  · simp
  · cases new

/-- What is found, and what the registry is then, where a unit finds no session. -/
inductive Unresolved (r : Registry) :
    Option String → Except Error (Option Session) → Registry → Prop where
  /-- The unit does not say who sends it. -/
  | unasked : Unresolved r none (.ok none) r
  | unknown (uniqueId : String) (asker : Option ConnectionId)
    (new : r.identity? uniqueId = none) :
    Unresolved r (some uniqueId) (.ok none)
      { r with
        identities := Table.erase r.identities uniqueId
        lookups := r.lookups + 1
        events := r.events ++ [.unknown uniqueId asker] }
  | failed (uniqueId : String) (error : Error) (new : r.identity? uniqueId = none) :
    Unresolved r (some uniqueId) (.error error)
      { r with identities := Table.put r.identities uniqueId none, lookups := r.lookups + 1 }

variable {δ : Type} [Directory δ] {r r' : Registry} {identifier : Option String}
  {result : Except Error (Option Session)}

theorem unresolved (r : Registry) (directory : δ) (mode : SessionMode) (connection : ConnectionId)
    (identifier : Option String) :
    let outcome := r.resolve directory mode connection identifier
    (∀ session, outcome.1 ≠ .ok (some session)) →
        r.Unresolved identifier outcome.1 outcome.2.1 := by
  intro outcome nothing
  cases identifier with
  | none =>
    cases mode with
    | byIdentifier => exact .unasked
    | byConnection =>
      cases kept : r.sessionOf? connection with
      | some session => exact absurd (congrArg Except.ok kept) (nothing session)
      | none =>
        simp only [outcome, resolve, kept]
        exact .unasked
  | some uniqueId =>
    have resolved := r.resolved directory mode connection uniqueId
    simp only [outcome] at nothing ⊢
    generalize r.resolve directory mode connection (some uniqueId) = outcome at resolved nothing ⊢
    cases resolved with
    | kept session => exact absurd rfl (nothing session)
    | bound => exact absurd rfl (nothing _)
    | unknown r' directory' new identified =>
      cases identified with
      | unknown new => exact .unknown uniqueId _ new
    | failed error r' directory' new identified =>
      cases identified with
      | failed _ new => exact .failed uniqueId error new

/-- All but the identifier asked for is as it was. -/
theorem Unresolved.resembles (h : r.Unresolved identifier result r') :
    r.Resembles (fun uniqueId => identifier = some uniqueId) r' := by
  cases h with
  | unasked => exact .refl r
  | unknown uniqueId asker new =>
    refine ⟨rfl, rfl, rfl, fun other => ?_, fun other spared => ?_⟩
    · rw [Table.get?_erase]
      split
      · rename_i same
        exact (same ▸ new).symm
      · rfl
    · have different : uniqueId ≠ other := fun same => spared (congrArg some same)
      rw [Table.holds, Table.holds, Table.get?_erase, if_neg different]
  | failed uniqueId error new =>
    refine ⟨rfl, rfl, rfl, fun other => ?_, fun other spared => ?_⟩
    · rw [Table.get?_put]
      split
      · rename_i same
        exact (same ▸ new).symm
      · rfl
    · have different : uniqueId ≠ other := fun same => spared (congrArg some same)
      rw [Table.holds, Table.holds, Table.get?_put, if_neg different]

/-- The identifier asked for is on record just if the directory failed. -/
theorem Unresolved.holds_iff {uniqueId : String} (h : r.Unresolved (some uniqueId) result r') :
    Table.holds r'.identities uniqueId = true ↔ ∃ error, result = .error error := by
  cases h with
  | unknown asker new =>
    rw [Table.holds, Table.get?_erase, if_pos rfl]
    simp
  | failed error new =>
    rw [Table.holds, Table.get?_put, if_pos rfl]
    simp

theorem Unresolved.new {uniqueId : String} (h : r.Unresolved (some uniqueId) result r') :
    r.identity? uniqueId = none := by
  cases h <;> assumption

/-! ### Sessions and numbers -/

/-- Whether each session that is kept for an identifier has a number on record. -/
def Backed (r : Registry) : Prop :=
  ∀ uniqueId, Table.holds r.identifiers uniqueId = true → (r.identity? uniqueId).isSome = true

theorem backed_empty : Backed .empty := by
  rintro uniqueId ⟨⟩

theorem Backed.evict_eq (backed : r.Backed) {uniqueId : String}
    (new : r.identity? uniqueId = none) :
    (r.evict uniqueId).1 = Table.holds r.identities uniqueId := by
  have free : Table.holds r.identifiers uniqueId = false := by
    rw [← Bool.not_eq_true]
    intro kept
    have known := backed uniqueId kept
    rw [new] at known
    cases known
  rw [evict, free, Bool.false_or]

theorem Backed.identified {directory directory' : δ} {uniqueId : String}
    {asker : Option ConnectionId} {found : Except Error (Option DeviceId)} (backed : r.Backed)
    (h : Identified r directory uniqueId asker (found, r', directory')) : r'.Backed := by
  intro other kept
  rw [h.identifiers_eq] at kept
  have known := backed other kept
  rcases h.recalled_or_asked with ⟨id, recalled, -, rfl, -⟩ | ⟨new, -, later, -⟩
  · exact known
  · rw [later other]
    split
    · rename_i same
      rw [← same, new] at known
      cases known
    · exact known

theorem Identified.identity?_eq {directory directory' : δ} {uniqueId : String}
    {asker : Option ConnectionId} {id : DeviceId}
    (h : Identified r directory uniqueId asker (.ok (some id), r', directory')) :
    r'.identity? uniqueId = some id := by
  rcases h.recalled_or_asked with ⟨id', recalled, told, rfl, -⟩ | ⟨-, -, later, told⟩
  · cases told
    exact recalled
  · rw [later, if_pos rfl, ← told _ rfl]

theorem Backed.bind (backed : r.Backed) {uniqueId : String} {id : DeviceId}
    (number : r.identity? uniqueId = some id) (mode : SessionMode) (connection : ConnectionId) :
    (r.bind mode connection uniqueId id).2.Backed := by
  cases mode with
  | byConnection => exact backed
  | byIdentifier =>
    intro other kept
    simp only [Registry.bind, bindIdentifier, log, Table.holds, Table.get?_put] at kept
    split at kept
    · rename_i same
      rw [← same]
      exact Option.isSome_of_eq_some number
    · exact backed other kept

theorem Backed.resolve (backed : r.Backed) (directory : δ) (mode : SessionMode)
    (connection : ConnectionId) (identifier : Option String) :
    (r.resolve directory mode connection identifier).2.1.Backed := by
  cases identifier with
  | none => cases mode <;> exact backed
  | some uniqueId =>
    have resolved := r.resolved directory mode connection uniqueId
    generalize r.resolve directory mode connection (some uniqueId) = outcome at resolved ⊢
    cases resolved with
    | kept => exact backed
    | bound id r' directory' new identified =>
      exact (backed.identified identified).bind identified.identity?_eq mode connection
    | unknown r' directory' new identified => exact backed.identified identified
    | failed error r' directory' new identified => exact backed.identified identified

theorem Backed.evict (backed : r.Backed) (uniqueId : String) : (r.evict uniqueId).2.Backed := by
  intro other kept
  simp only [Registry.evict, Table.holds, Table.get?_erase] at kept
  simp only [Registry.evict, identity?, Table.get?_erase]
  split at kept
  · cases kept
  · rename_i different
    rw [if_neg different]
    exact backed other kept

end Registry

namespace Sessions

variable {δ : Type} [Directory δ]

theorem backed_call {s : Sessions δ} (backed : s.1.Backed) (c : Call δ) :
    (s.call c).2.1.Backed := by
  obtain ⟨change, operation⟩ := c
  cases operation with
  | resolve mode connection identifier => exact backed.resolve _ mode connection identifier
  | release connection =>
    simp only [call, perform, Registry.release]
    split <;> exact backed
  | evict uniqueId => exact backed.evict uniqueId
  | updateLast position =>
    simp only [call, perform, Registry.updateLast]
    split <;> exact backed

theorem backed_callAll {s : Sessions δ} (backed : s.1.Backed) (calls : List (Call δ)) :
    (s.callAll calls).2.1.Backed := by
  induction calls generalizing s with
  | nil => exact backed
  | cons c rest ih => exact ih (backed_call backed c)

/-- After any calls of a new registry, whose directory may fail and may change between them: a
search for a session that finds none leaves a registry that reacts to all that comes as if it had
not been made, except where it is told to forget the identifier that was searched for. No list of
questions tells the two apart just if what the search left of the identifier was there before: it
was on record without a number if the directory failed, and it was not if the directory does not
know it. -/
theorem reactions_of_unresolved {directory : δ} {calls : List (Call δ)} {mode : SessionMode}
    {connection : ConnectionId} {identifier : Option String} :
    let s := (callAll (.empty, directory) calls).2
    let outcome := s.1.resolve s.2 mode connection identifier
    (∀ session, outcome.1 ≠ .ok (some session)) →
      (∀ (later : δ) (inquiries : List (Inquiry δ)) (place : Nat) (inquiry : Inquiry δ),
        inquiries[place]? = some inquiry →
          (∀ uniqueId, inquiry.evicted? = some uniqueId → identifier ≠ some uniqueId) →
            (reactions (outcome.2.1, later) inquiries)[place]? =
              (reactions (s.1, later) inquiries)[place]?) ∧
      ((∀ (later : δ) (inquiries : List (Inquiry δ)),
          reactions (outcome.2.1, later) inquiries = reactions (s.1, later) inquiries) ↔
        ∀ uniqueId, identifier = some uniqueId →
          ((∃ error, outcome.1 = .error error) ↔ s.1.HasRemnant uniqueId)) := by
  intro s outcome nothing
  have left := s.1.unresolved s.2 mode connection identifier nothing
  have backed : s.1.Backed := backed_callAll Registry.backed_empty calls
  have backed' : outcome.2.1.Backed := backed.resolve s.2 mode connection identifier
  refine ⟨fun later inquiries place inquiry there spared =>
    reactions_of_resembles left.resembles there spared, ?_, ?_⟩
  · rintro same uniqueId rfl
    have new := left.new
    have new' : outcome.2.1.identity? uniqueId = none :=
      (left.resembles.identities.number uniqueId).trans new
    -- Only the reply to `evict` can show what is left.
    have asked := same s.2 [.call ⟨id, .evict uniqueId⟩]
    injection (List.cons.inj asked).1 with reply
    have removed : (outcome.2.1.evict uniqueId).1 = (s.1.evict uniqueId).1 :=
      Response.removed.inj (Reply.response.inj reply)
    rw [backed'.evict_eq new', backed.evict_eq new] at removed
    rw [← left.holds_iff, removed, Registry.hasRemnant_iff_of_new new]
  · intro remnant
    refine fun later inquiries =>
      reactions_eq_of_resembles (left.resembles.whole ?_) later inquiries
    rintro uniqueId rfl
    rw [Bool.eq_iff_iff, left.holds_iff, remnant uniqueId rfl,
      Registry.hasRemnant_iff_of_new left.new]

/-- A directory that is out of order. -/
def brokenDirectory : String → Lookup := fun _ => .failed (.directory "backend unavailable")

/-- The directory fails for an identifier for which it has failed before, on another connection. -/
theorem reactions_of_repeatedFailure :
    let s := (callAll (.empty, brokenDirectory) [⟨id, .resolve .byConnection ⟨1⟩ (some "77")⟩]).2
    let outcome := s.1.resolve s.2 .byIdentifier ⟨2⟩ (some "77")
    (∀ session, outcome.1 ≠ .ok (some session)) ∧
      ∀ (later : String → Lookup) (inquiries : List (Inquiry (String → Lookup))),
        reactions (outcome.2.1, later) inquiries = reactions (s.1, later) inquiries := by
  intro s outcome
  have nothing : ∀ session, outcome.1 ≠ .ok (some session) := by
    rintro session ⟨⟩
  obtain ⟨-, alike⟩ := reactions_of_unresolved nothing
  refine ⟨nothing, alike.2 ?_⟩
  rintro uniqueId ⟨⟩
  exact ⟨fun _ => rfl, fun _ => ⟨_, rfl⟩⟩

/-- A first failure shows: there is something to remove of an identifier of which there was
nothing. -/
theorem not_replies_eq_of_failure :
    ¬ ∀ (directory : String → Lookup) (calls : List (Call (String → Lookup))) (mode : SessionMode)
        (connection : ConnectionId) (identifier : Option String),
        let s := (callAll (.empty, directory) calls).2
        let outcome := s.1.resolve s.2 mode connection identifier
        (∀ session, outcome.1 ≠ .ok (some session)) →
          ∀ (later : String → Lookup) (inquiries : List (Inquiry (String → Lookup))),
            (reactions (outcome.2.1, later) inquiries).map (·.reply) =
              (reactions (s.1, later) inquiries).map (·.reply) := by
  intro claim
  have nothing (session : Session) :
      (Registry.empty.resolve brokenDirectory .byIdentifier ⟨1⟩ (some "77")).1 ≠
        .ok (some session) := by
    rintro ⟨⟩
  have same := claim brokenDirectory [] .byIdentifier ⟨1⟩ (some "77") nothing brokenDirectory
    [.call ⟨id, .evict "77"⟩]
  have removed : true = false := Response.removed.inj (Reply.response.inj (List.cons.inj same).1)
  cases removed

end Sessions
end TrackerGateway
