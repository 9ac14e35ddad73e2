import TrackerGateway.Proofs.Session.Calls

/-!
# One identifier, one device

A registry keeps the number of an identifier in three places: on record, in the sessions of
connections and in those of identifiers. They are filled and emptied at different times, but as
long as the identifier is not evicted each of them has the number of the first positive answer for
it or none (`Sessions.Consistent`). Since the number on record is neither lost nor looked up
again, that answer is the last one (`Sessions.agree_of_callAll`).
-/

namespace TrackerGateway

/-- The number that a directory gave first for an identifier, if it gave one. -/
def firstNumber? (uniqueId : String) (answers : List (String × Lookup)) : Option DeviceId :=
  answers.findSome? fun entry => if entry.1 = uniqueId then entry.2.number? else none

theorem firstNumber?_append (uniqueId : String) (answers : List (String × Lookup)) (asked : String)
    (answer : Lookup) :
    firstNumber? uniqueId (answers ++ [(asked, answer)]) =
      (firstNumber? uniqueId answers).or (if asked = uniqueId then answer.number? else none) := by
  rw [firstNumber?, List.findSome?_append, List.findSome?_singleton]
  rfl

/-- Whether a directory was not asked for an identifier again once it had given its number. -/
def AskedUntilKnown (uniqueId : String) (answers : List (String × Lookup)) : Prop :=
  answers.Pairwise fun earlier later =>
    earlier.1 = uniqueId → earlier.2.number?.isSome = true → later.1 ≠ uniqueId

theorem AskedUntilKnown.append {uniqueId : String} {answers : List (String × Lookup)}
    (h : AskedUntilKnown uniqueId answers) (asked : String) (answer : Lookup)
    (new : asked = uniqueId → firstNumber? uniqueId answers = none) :
    AskedUntilKnown uniqueId (answers ++ [(asked, answer)]) := by
  refine List.pairwise_append.2 ⟨h, List.pairwise_singleton _ _, ?_⟩
  intro earlier member later last named known again
  rw [List.mem_singleton.1 last] at again
  have none_positive := List.findSome?_eq_none_iff.1 (new again) earlier member
  rw [if_pos named] at none_positive
  rw [none_positive] at known
  cases known

namespace Sessions

variable {δ : Type}

/-- Whether all that is kept of an identifier accords with the answers for it. -/
structure Consistent (uniqueId : String) (s : Sessions (Audited δ)) : Prop where
  identity : s.1.identity? uniqueId = firstNumber? uniqueId s.2.answers
  ofConnection : ∀ connection session, s.1.sessionOf? connection = some session →
    session.uniqueId = uniqueId → firstNumber? uniqueId s.2.answers = some session.deviceId
  ofIdentifier : ∀ key session, Table.get? s.1.identifiers key = some session →
    session.uniqueId = uniqueId → firstNumber? uniqueId s.2.answers = some session.deviceId
  asked : AskedUntilKnown uniqueId s.2.answers

theorem consistent_empty (uniqueId : String) (directory : δ) :
    Consistent uniqueId (.empty, ⟨directory, []⟩) where
  identity := rfl
  ofConnection := by rintro connection session ⟨⟩
  ofIdentifier := by rintro key session ⟨⟩
  asked := List.Pairwise.nil

/-- The directory is not asked and each session that is new has the number on record. -/
theorem Consistent.of_registry {uniqueId : String} {s s' : Sessions (Audited δ)}
    (h : s.Consistent uniqueId) (answers : s'.2.answers = s.2.answers)
    (identity : s'.1.identity? uniqueId = s.1.identity? uniqueId)
    (ofConnection : ∀ connection session, s'.1.sessionOf? connection = some session →
      s.1.sessionOf? connection = some session ∨ (session.uniqueId = uniqueId →
        s.1.identity? uniqueId = some session.deviceId))
    (ofIdentifier : ∀ key session, Table.get? s'.1.identifiers key = some session →
      Table.get? s.1.identifiers key = some session ∨ (session.uniqueId = uniqueId →
        s.1.identity? uniqueId = some session.deviceId)) :
    s'.Consistent uniqueId := by
  refine ⟨?_, ?_, ?_, ?_⟩
  · rw [identity, answers]
    exact h.identity
  · intro connection session bound named
    rw [answers]
    rcases ofConnection connection session bound with before | new
    · exact h.ofConnection connection session before named
    · rw [← h.identity]
      exact new named
  · intro key session bound named
    rw [answers]
    rcases ofIdentifier key session bound with before | new
    · exact h.ofIdentifier key session before named
    · rw [← h.identity]
      exact new named
  · rw [answers]
    exact h.asked

/-- A session that is returned is of the device that the answers name. -/
def Accords (uniqueId : String) (answers : List (String × Lookup)) (response : Response) : Prop :=
  ∀ session, response = .session (some session) → session.uniqueId = uniqueId →
    firstNumber? uniqueId answers = some session.deviceId

theorem Consistent.bound {uniqueId named : String} {id : DeviceId} {r : Registry}
    {audited : Audited δ} (h : Consistent uniqueId (r, audited))
    (number : r.identity? named = some id) (mode : SessionMode) (connection : ConnectionId) :
    Consistent uniqueId ((r.bind mode connection named id).2, audited) ∧
      Accords uniqueId audited.answers (.session (some (r.bind mode connection named id).1)) := by
  have accords (key : SessionKey) (same : named = uniqueId) :
      r.identity? uniqueId = some (Session.mk id named key).deviceId := by
    rw [← same]
    exact number
  cases mode with
  | byConnection =>
    constructor
    · refine h.of_registry rfl rfl ?_ (fun _ _ kept => .inl kept)
      intro other session bound
      simp only [Registry.bind, Registry.bindConnection, Registry.log, Registry.sessionOf?,
        Table.get?_put] at bound
      split at bound
      · cases bound
        exact .inr (accords _)
      · exact .inl bound
    · intro session returned same
      cases returned
      rw [← h.identity]
      exact accords _ same
  | byIdentifier =>
    constructor
    · refine h.of_registry rfl rfl (fun _ _ kept => .inl kept) ?_
      intro key session bound
      simp only [Registry.bind, Registry.bindIdentifier, Registry.log, Table.get?_put] at bound
      split at bound
      · cases bound
        exact .inr (accords _)
      · exact .inl bound
    · intro session returned same
      cases returned
      rw [← h.identity]
      exact accords _ same

variable [Directory δ]

/-- Looking an identifier up keeps what is known of another in accord. If it is the same one, then
it is looked up in the directory only before the first positive answer. -/
theorem Consistent.identified {uniqueId named : String} {s : Sessions (Audited δ)}
    {asker : Option ConnectionId} {result : Except Error (Option DeviceId)} {r' : Registry}
    {audited' : Audited δ} (h : s.Consistent uniqueId)
    (found : Registry.Identified s.1 s.2 named asker (result, r', audited')) :
    Consistent uniqueId (r', audited') ∧
      ∀ number, result = .ok number → r'.identity? named = number := by
  have connections := found.connections_eq
  have identifiers := found.identifiers_eq
  rcases found.recalled_or_asked with ⟨id, kept, rfl, rfl, rfl⟩ | ⟨new, directory, identity, number⟩
  · refine ⟨h, fun number ok => ?_⟩
    cases ok
    exact kept
  · let answer := (Directory.lookup s.2 named).1
    have answers : audited'.answers = s.2.answers ++ [(named, answer)] := by
      rw [directory]
      rfl
    have grown : firstNumber? uniqueId audited'.answers =
        (firstNumber? uniqueId s.2.answers).or (if named = uniqueId then answer.number?
          else none) := by
      rw [answers, firstNumber?_append]
    have still {id : DeviceId} (before : firstNumber? uniqueId s.2.answers = some id) :
        firstNumber? uniqueId audited'.answers = some id := by
      rw [grown, before]
      rfl
    have unknown (same : named = uniqueId) : firstNumber? uniqueId s.2.answers = none := by
      rw [← h.identity, ← same]
      exact new
    refine ⟨⟨?_, ?_, ?_, ?_⟩, fun number' ok => ?_⟩
    · show r'.identity? uniqueId = firstNumber? uniqueId audited'.answers
      rw [identity uniqueId, grown]
      by_cases same : named = uniqueId
      · rw [if_pos same, if_pos same, unknown same]
        rfl
      · rw [if_neg same, if_neg same, Option.or_none]
        exact h.identity
    · intro connection session bound same
      apply still
      rw [Registry.sessionOf?, connections] at bound
      exact h.ofConnection connection session bound same
    · intro key session bound same
      apply still
      rw [identifiers] at bound
      exact h.ofIdentifier key session bound same
    · show AskedUntilKnown uniqueId audited'.answers
      rw [answers]
      exact h.asked.append named answer unknown
    · rw [identity named, if_pos rfl]
      exact (number number' ok).symm

theorem Consistent.resolve {uniqueId : String} {s : Sessions (Audited δ)}
    (h : s.Consistent uniqueId) (mode : SessionMode) (connection : ConnectionId)
    (identifier : Option String) :
    Consistent uniqueId (s.1.resolve s.2 mode connection identifier).2 ∧
      Accords uniqueId (s.1.resolve s.2 mode connection identifier).2.2.answers
        (.ofResult (s.1.resolve s.2 mode connection identifier).1) := by
  cases identifier with
  | none =>
    cases mode with
    | byConnection =>
      refine ⟨h, fun session returned same => ?_⟩
      cases bound : s.1.sessionOf? connection with
      | none => simp [Registry.resolve, bound, Response.ofResult] at returned
      | some session' =>
        simp only [Registry.resolve, bound, Response.ofResult, Response.session.injEq,
          Option.some.injEq] at returned
        subst returned
        exact h.ofConnection connection session' bound same
    | byIdentifier =>
      refine ⟨h, fun session returned => ?_⟩
      cases returned
  | some named =>
    have resolved := s.1.resolved s.2 mode connection named
    generalize s.1.resolve s.2 mode connection (some named) = outcome at resolved ⊢
    cases resolved with
    | kept session kept =>
      refine ⟨h, fun session' returned same => ?_⟩
      cases returned
      cases mode with
      | byConnection =>
        exact h.ofConnection connection session (Option.filter_eq_some_iff.1 kept).1 same
      | byIdentifier => exact h.ofIdentifier named session kept same
    | bound id r' directory' new found =>
      obtain ⟨consistent, number⟩ := h.identified found
      exact consistent.bound (number _ rfl) mode connection
    | unknown r' directory' new found =>
      refine ⟨(h.identified found).1, fun session returned => ?_⟩
      cases returned
    | failed error r' directory' new found =>
      refine ⟨(h.identified found).1, fun session returned => ?_⟩
      cases returned

/-- Only evicting an identifier lets its number be forgotten. -/
theorem Consistent.call {uniqueId : String} {s : Sessions (Audited δ)} (h : s.Consistent uniqueId)
    (c : Call δ) (kept : c.operation ≠ .evict uniqueId) :
    (s.call c.audited).2.Consistent uniqueId ∧
      Accords uniqueId (s.call c.audited).2.2.answers (s.call c.audited).1 := by
  obtain ⟨change, operation⟩ := c
  have changed : Consistent uniqueId (s.1, ⟨change s.2.directory, s.2.answers⟩) :=
    h.of_registry rfl rfl (fun _ _ same => .inl same) (fun _ _ same => .inl same)
  cases operation with
  | resolve mode connection identifier => exact changed.resolve mode connection identifier
  | release connection =>
    refine ⟨?_, fun session returned => by cases returned⟩
    simp only [Sessions.call, perform, Call.audited, Registry.release]
    split
    · refine changed.of_registry rfl rfl (fun other session bound => .inl ?_)
        (fun _ _ same => .inl same)
      simp only [Registry.log, Registry.sessionOf?, Table.get?_erase] at bound
      split at bound
      · cases bound
      · exact bound
    · exact changed
  | evict other =>
    have different : other ≠ uniqueId := fun same => kept (congrArg Operation.evict same)
    refine ⟨changed.of_registry rfl ?_ (fun _ _ same => .inl same)
      (fun key session bound => .inl ?_),
      fun session returned => by cases returned⟩
    · simp only [Sessions.call, perform, Call.audited, Registry.evict, Registry.identity?,
        Table.get?_erase, different, if_false]
    · simp only [Sessions.call, perform, Call.audited, Registry.evict, Table.get?_erase] at bound
      split at bound
      · cases bound
      · exact bound
  | updateLast position =>
    refine ⟨?_, fun session returned => by cases returned⟩
    simp only [Sessions.call, perform, Call.audited, Registry.updateLast]
    split
    · exact changed.of_registry rfl rfl (fun _ _ same => .inl same) (fun _ _ same => .inl same)
    · exact changed

/-! ### Runs -/

theorem prefix_call (s : Sessions (Audited δ)) (c : Call δ) :
    s.2.answers <+: (s.call c.audited).2.2.answers := by
  obtain ⟨change, operation⟩ := c
  cases operation with
  | resolve mode connection identifier =>
    cases identifier with
    | none => cases mode <;> exact List.prefix_rfl
    | some named =>
      let audited : Audited δ := ⟨change s.2.directory, s.2.answers⟩
      show s.2.answers <+: (s.1.resolve audited mode connection (some named)).2.2.answers
      rcases s.1.resolve_directory audited mode connection named with same | asked
      · simp only [same, audited, List.prefix_rfl]
      · rw [asked]
        exact List.prefix_append _ _
  | release | evict | updateLast => exact List.prefix_rfl

theorem prefix_callAll (s : Sessions (Audited δ)) (calls : List (Call δ)) :
    s.2.answers <+: (s.callAll (calls.map Call.audited)).2.2.answers := by
  induction calls generalizing s with
  | nil => exact List.prefix_rfl
  | cons c rest ih => exact (s.prefix_call c).trans (ih (s.call c.audited).2)

/-- What accords with the answers so far accords with all later ones. -/
theorem Accords.of_prefix {uniqueId : String} {answers later : List (String × Lookup)}
    {response : Response} (h : Accords uniqueId answers response) (grown : answers <+: later) :
    Accords uniqueId later response := by
  obtain ⟨more, rfl⟩ := grown
  intro session returned same
  rw [firstNumber?, List.findSome?_append]
  exact Option.or_eq_some_iff.2 (.inl (h session returned same))

theorem Consistent.callAll {uniqueId : String} {s : Sessions (Audited δ)}
    (h : s.Consistent uniqueId) (calls : List (Call δ))
    (kept : ∀ c ∈ calls, c.operation ≠ .evict uniqueId) :
    (s.callAll (calls.map Call.audited)).2.Consistent uniqueId ∧
      ∀ response ∈ (s.callAll (calls.map Call.audited)).1,
        Accords uniqueId (s.callAll (calls.map Call.audited)).2.2.answers response := by
  induction calls generalizing s with
  | nil => exact ⟨h, fun response none => nomatch none⟩
  | cons c rest ih =>
    obtain ⟨first, accords⟩ := h.call c (kept c List.mem_cons_self)
    obtain ⟨last, others⟩ := ih first fun c' later => kept c' (List.mem_cons_of_mem c later)
    rw [List.map_cons, callAll_cons]
    refine ⟨last, fun response member => ?_⟩
    rcases List.mem_cons.1 member with rfl | member
    · exact accords.of_prefix (prefix_callAll _ rest)
    · exact others response member

/-- The answers that a directory gives in the course of calls, with the identifiers asked for. -/
def answers (s : Sessions δ) (calls : List (Call δ)) : List (String × Lookup) :=
  (callAll (s.1, (⟨s.2, []⟩ : Audited δ)) (calls.map Call.audited)).2.2.answers

/-- Over any calls of a new registry, whose directory may fail and may change between them, all
sessions returned for an identifier that is not evicted are of one device: the directory's first
positive answer for it. After that answer the directory is not asked for it again. -/
theorem agree_of_callAll (directory : δ) (calls : List (Call δ)) (uniqueId : String)
    (kept : ∀ c ∈ calls, c.operation ≠ .evict uniqueId) :
    (∀ session, .session (some session) ∈ (callAll (.empty, directory) calls).1 →
      session.uniqueId = uniqueId →
        firstNumber? uniqueId (answers (.empty, directory) calls) = some session.deviceId) ∧
      AskedUntilKnown uniqueId (answers (.empty, directory) calls) := by
  obtain ⟨consistent, accords⟩ := (consistent_empty uniqueId directory).callAll calls kept
  have same := callAll_audited (.empty, ⟨directory, []⟩) calls
  refine ⟨fun session returned named => ?_, consistent.asked⟩
  rw [show (.empty, directory) = unaudited (.empty, (⟨directory, []⟩ : Audited δ)) from rfl, same]
    at returned
  exact accords _ returned session rfl named

/-- A directory that at first fails, then does not know a device, learns it, and gives it another
number; the device is on two connections, one of which closes in between. -/
def sampleCalls : List (Call (String → Lookup)) :=
  [⟨id, .resolve .byIdentifier ⟨1⟩ (some "7")⟩,
    ⟨fun _ _ => .unknown, .resolve .byConnection ⟨1⟩ (some "7")⟩,
    ⟨fun _ _ => .known ⟨5⟩, .resolve .byConnection ⟨1⟩ (some "7")⟩,
    ⟨fun _ _ => .known ⟨6⟩, .resolve .byIdentifier ⟨2⟩ (some "7")⟩,
    ⟨id, .release ⟨1⟩⟩,
    ⟨id, .evict "8"⟩,
    ⟨id, .resolve .byConnection ⟨1⟩ (some "8")⟩,
    ⟨id, .resolve .byConnection ⟨1⟩ (some "7")⟩]

def sampleDirectory : String → Lookup := fun _ => .failed (.directory "down")

theorem agree_of_sampleCalls :
    (callAll (.empty, sampleDirectory) sampleCalls).1 =
        [.failed (.directory "down"), .session none, .session (some ⟨⟨5⟩, "7", .connection ⟨1⟩⟩),
          .session (some ⟨⟨5⟩, "7", .identifier "7"⟩), .removed true, .removed false,
          .session (some ⟨⟨6⟩, "8", .connection ⟨1⟩⟩),
          .session (some ⟨⟨5⟩, "7", .connection ⟨1⟩⟩)] ∧
      firstNumber? "7" (answers (.empty, sampleDirectory) sampleCalls) = some ⟨5⟩ ∧
      AskedUntilKnown "7" (answers (.empty, sampleDirectory) sampleCalls) := by
  have kept : ∀ c ∈ sampleCalls, c.operation ≠ .evict "7" := by
    simp [sampleCalls]
  obtain ⟨agree, asked⟩ := agree_of_callAll sampleDirectory sampleCalls "7" kept
  refine ⟨rfl, ?_, asked⟩
  exact agree ⟨⟨5⟩, "7", .identifier "7"⟩ (by decide +kernel) rfl

end Sessions
end TrackerGateway
