import TrackerGateway.Watch.Framing
import TrackerGateway.Proofs.Framing.Segmentation
import TrackerGateway.Proofs.Watch.Header

/-!
# Watch streams that arrive in chunks

Noise, pairs of escaped octets, the declared length and the closing bracket are all judged by
octets that stand before the place that is judged, so it does not matter how many more have
arrived. The one exception is `Header.patience`. A stream whose headers are all told by their
first octets (`Prompt`) is cut into the same frames however it is divided; one that has a header
longer than that is not.
-/

namespace TrackerGateway.Watch

/-- Where a header stands when a stream in one piece is cut into frames. -/
inductive Meets (limit : Nat) : Bytes → Bytes → Prop where
  | front {stream place : Bytes} {header : Header} (h : skipNoise stream = .header header place) :
    Meets limit stream place
  | later {stream unit rest place : Bytes} (h : step limit stream = .unit unit rest)
    (met : Meets limit rest place) : Meets limit stream place

/-- Every header of a stream is told by as many of its octets as `Header.patience` waits for. -/
def Prompt (limit : Nat) (stream : Bytes) : Prop :=
  ∀ place, Meets limit stream place → Header.read (place.take Header.patience) ≠ .incomplete

/-- The front of a stream has a header that is told in time, if it has one. -/
def FrontPrompt (stream : Bytes) : Prop :=
  ∀ header place, skipNoise stream = .header header place →
    Header.read (place.take Header.patience) ≠ .incomplete

theorem Prompt.front {limit : Nat} {stream : Bytes} (prompt : Prompt limit stream) :
    FrontPrompt stream := fun _ place h => prompt place (.front h)

/-! ### Noise -/

theorem skipNoise_of_complete {buffer : Bytes} {header : Header}
    (h : Header.scan buffer = .complete header) : skipNoise buffer = .header header buffer := by
  match buffer with
  | [] => simp [Header.scan_eq_complete, Header.read] at h
  | b :: rest =>
    have opens : ¬ b ≠ opening := by
      intro other
      simp [Header.scan_eq_complete, Header.read, other] at h
    rw [skipNoise, if_neg opens, h]

theorem skipNoise_of_incomplete {buffer : Bytes} (h : Header.scan buffer = .incomplete) :
    skipNoise buffer = .open buffer := by
  match buffer with
  | [] => rfl
  | b :: rest =>
    have opens : ¬ b ≠ opening := by
      intro other
      have noise : Header.read (b :: rest) = .invalid := by simp [Header.read, other]
      rw [Header.scan_of_read_invalid noise] at h
      cases h
    rw [skipNoise, if_neg opens, h]

theorem skipNoise_of_invalid {b : UInt8} {rest : Bytes} (h : Header.scan (b :: rest) = .invalid) :
    skipNoise (b :: rest) = skipNoise rest := by
  rw [skipNoise, h]
  exact ite_self _

/-- The octets before the first header play no part once they are dropped. -/
theorem skipNoise_again (buffer : Bytes) :
    (∀ {header place}, skipNoise buffer = .header header place →
        Header.scan place = .complete header) ∧
      ∀ {rest}, skipNoise buffer = .open rest → Header.scan rest = .incomplete := by
  induction buffer with
  | nil =>
    constructor
    · intro header place h
      cases h
    · intro rest h
      cases h
      rfl
  | cons b tail ih =>
    cases found : Header.scan (b :: tail) with
    | complete header =>
      rw [skipNoise_of_complete found]
      constructor
      · intro header place h
        cases h
        exact found
      · intro rest h
        cases h
    | incomplete =>
      rw [skipNoise_of_incomplete found]
      constructor
      · intro header place h
        cases h
      · intro rest h
        cases h
        exact found
    | invalid =>
      rw [skipNoise_of_invalid found]
      exact ih

theorem FrontPrompt.of_invalid {b : UInt8} {rest : Bytes} (prompt : FrontPrompt (b :: rest))
    (h : Header.scan (b :: rest) = .invalid) : FrontPrompt rest := by
  rwa [FrontPrompt, skipNoise_of_invalid h] at prompt

/-- Octets that were given up are given up also when the rest of the stream is there. -/
theorem FrontPrompt.scan_invalid {buffer more : Bytes} (prompt : FrontPrompt (buffer ++ more))
    (h : Header.scan buffer = .invalid) : Header.scan (buffer ++ more) = .invalid :=
  Header.scan_append_of_invalid more
    (fun header found => prompt header _ (skipNoise_of_complete found)) h

/-- The front of a buffer once more octets have come. -/
def Front.onward (more : Bytes) : Front → Front
  | .open rest => skipNoise (rest ++ more)
  | .header found place => .header found (place ++ more)

theorem skipNoise_append {buffer : Bytes} (more : Bytes) (prompt : FrontPrompt (buffer ++ more)) :
    skipNoise (buffer ++ more) = (skipNoise buffer).onward more := by
  induction buffer with
  | nil => rfl
  | cons b rest ih =>
    cases found : Header.scan (b :: rest) with
    | complete header =>
      rw [skipNoise_of_complete found]
      exact skipNoise_of_complete (Header.scan_append_of_complete more found)
    | incomplete =>
      rw [skipNoise_of_incomplete found]
      rfl
    | invalid =>
      have still := prompt.scan_invalid found
      rw [List.cons_append] at prompt still ⊢
      rw [skipNoise_of_invalid found, skipNoise_of_invalid still]
      exact ih (prompt.of_invalid still)

/-! ### Frames -/

theorem takeResolved_append {taken raw content rest : Bytes} {count : Nat} (more : Bytes)
    (h : takeResolved taken count raw = some (content, rest)) :
    takeResolved taken count (raw ++ more) = some (content, rest ++ more) := by
  fun_induction takeResolved taken count raw with
  | case1 taken rest =>
    cases h
    rw [takeResolved]
  | case2 => cases h
  | case3 => cases h
  | case4 taken count code after meant hm ih =>
    simp only [List.cons_append, takeResolved, hm, if_true]
    exact ih h
  | case5 taken count code after hm ih =>
    simp only [List.cons_append, takeResolved, hm, if_true]
    exact ih h
  | case6 taken count b rest hb ih =>
    simp only [List.cons_append, takeResolved, hb, if_false]
    exact ih h

theorem eq_of_pause_wait {limit : Nat} {buffer rest : Bytes} (h : pause limit buffer = .wait rest) :
    rest = buffer := by
  unfold pause at h
  split at h
  · cases h
  · cases h
    rfl

theorem cutAtBracket_append {limit : Nat} {head raw unit rest : Bytes} (more : Bytes)
    (h : cutAtBracket limit head raw = .unit unit rest) :
    cutAtBracket limit head (raw ++ more) = .unit unit (rest ++ more) := by
  unfold cutAtBracket at h ⊢
  cases cut : Bytes.cut? closing raw with
  | none =>
    rw [cut] at h
    exact absurd h pause_ne_unit
  | some pair =>
    obtain ⟨content, after⟩ := pair
    rw [cut] at h
    cases h
    rw [Bytes.cut?_append more cut]

theorem cutFrame_append {limit length : Nat} {head raw unit rest : Bytes} (more : Bytes)
    (h : cutFrame limit length head raw = .unit unit rest) :
    cutFrame limit length head (raw ++ more) = .unit unit (rest ++ more) := by
  unfold cutFrame at h ⊢
  split at h
  · exact absurd h pause_ne_unit
  · exact absurd h pause_ne_unit
  · rename_i content b after taken
    rw [takeResolved_append more taken]
    simp only [List.cons_append]
    split at h
    · rename_i closes
      cases h
      rw [if_pos closes]
    · rename_i closes
      rw [if_neg closes]
      exact cutAtBracket_append more h

theorem cutFrame_wait {limit length : Nat} {head raw rest : Bytes}
    (h : cutFrame limit length head raw = .wait rest) : rest = head ++ raw := by
  unfold cutFrame at h
  split at h
  · exact eq_of_pause_wait h
  · exact eq_of_pause_wait h
  · split at h
    · cases h
    · unfold cutAtBracket at h
      split at h
      · cases h
      · exact eq_of_pause_wait h

theorem step_of_open {limit : Nat} {buffer rest : Bytes} (h : skipNoise buffer = .open rest) :
    step limit buffer = pause limit rest := by
  rw [step, h]

theorem step_of_header {limit : Nat} {buffer place : Bytes} {header : Header}
    (h : skipNoise buffer = .header header place) :
    step limit buffer =
      cutFrame limit header.length (place.take header.contentStart)
        (place.drop header.contentStart) := by
  rw [step, h]

/-- A buffer waits with what stands behind its noise. -/
theorem skipNoise_of_wait {limit : Nat} {buffer rest : Bytes}
    (h : step limit buffer = .wait rest) :
    skipNoise buffer = .open rest ∨ ∃ header, skipNoise buffer = .header header rest := by
  cases front : skipNoise buffer with
  | «open» left =>
    rw [step_of_open front] at h
    rw [eq_of_pause_wait h]
    exact .inl rfl
  | header header place =>
    rw [step_of_header front] at h
    rw [cutFrame_wait h, List.take_append_drop]
    exact .inr ⟨header, rfl⟩

theorem step_append_of_unit {limit : Nat} {buffer unit rest : Bytes} (more : Bytes)
    (prompt : FrontPrompt (buffer ++ more)) (h : step limit buffer = .unit unit rest) :
    step limit (buffer ++ more) = .unit unit (rest ++ more) := by
  cases front : skipNoise buffer with
  | «open» left =>
    rw [step_of_open front] at h
    exact absurd h pause_ne_unit
  | header header place =>
    have found := Header.scan_eq_complete.1 ((skipNoise_again buffer).1 front)
    have inside := Header.contentStart_le_length found
    rw [step_of_header front] at h
    have still : skipNoise (buffer ++ more) = .header header (place ++ more) := by
      rw [skipNoise_append more prompt, front]
      rfl
    rw [step_of_header still, List.take_append_of_le_length inside,
      List.drop_append_of_le_length inside]
    exact cutFrame_append more h

theorem skipNoise_append_of_wait {limit : Nat} {buffer rest : Bytes} (more : Bytes)
    (prompt : FrontPrompt (buffer ++ more)) (h : step limit buffer = .wait rest) :
    skipNoise (buffer ++ more) = skipNoise (rest ++ more) := by
  rw [skipNoise_append more prompt]
  rcases skipNoise_of_wait h with front | ⟨header, front⟩
  · rw [front]
    rfl
  · have found := (skipNoise_again buffer).1 front
    rw [front, skipNoise_of_complete (Header.scan_append_of_complete more found)]
    rfl

theorem step_of_wait_again {limit : Nat} {buffer rest : Bytes}
    (h : step limit buffer = .wait rest) : step limit rest = .wait rest := by
  have same : skipNoise buffer = skipNoise rest := by
    rcases skipNoise_of_wait h with front | ⟨header, front⟩
    · rw [front, skipNoise_of_incomplete ((skipNoise_again buffer).2 front)]
    · rw [front, skipNoise_of_complete ((skipNoise_again buffer).1 front)]
  rw [← h, step, step, same]

theorem Prompt.of_same_front {limit : Nat} {stream other : Bytes} (prompt : Prompt limit stream)
    (same : skipNoise other = skipNoise stream) : Prompt limit other := by
  intro place met
  apply prompt place
  cases met with
  | front h => exact .front (same ▸ h)
  | later h met => exact .later (by rw [← h, step, step, same]) met

theorem Meets.scan {limit : Nat} {stream place : Bytes} (met : Meets limit stream place) :
    (∃ header, Header.scan place = .complete header) ∧ place.length ≤ stream.length := by
  induction met with
  | @front stream place header h =>
    exact ⟨⟨header, (skipNoise_again stream).1 h⟩, length_le_of_skipNoise_header h⟩
  | later h _ ih => exact ⟨ih.1, Nat.le_trans ih.2 (Nat.le_of_lt ((framing limit).shorter h))⟩

/-- A short stream is prompt. -/
theorem prompt_of_length_le {limit : Nat} {stream : Bytes} (h : stream.length ≤ Header.patience) :
    Prompt limit stream := by
  intro place met
  obtain ⟨⟨header, found⟩, within⟩ := met.scan
  rw [List.take_of_length_le (Nat.le_trans within h), Header.scan_eq_complete.1 found]
  simp

/-- No cut of a prompt stream depends on what has not yet arrived. -/
theorem steady (limit : Nat) : (framing limit).Steady (Prompt limit) where
  unit_append := fun prompt h => step_append_of_unit _ prompt.front h
  wait_append := by
    intro buffer more rest prompt h
    simp only [framing, step, skipNoise_append_of_wait more prompt.front h]
  wait_again := step_of_wait_again
  good_of_unit := fun prompt h place met => prompt place (.later h met)
  good_of_wait :=
    fun prompt h => prompt.of_same_front (skipNoise_append_of_wait _ prompt.front h).symm

/-! ### The limit -/

theorem length_le_of_skipNoise_open {buffer rest : Bytes} (h : skipNoise buffer = .open rest) :
    rest.length ≤ buffer.length := by
  induction buffer with
  | nil =>
    cases h
    exact Nat.le_refl _
  | cons b tail ih =>
    cases found : Header.scan (b :: tail) with
    | complete header =>
      rw [skipNoise_of_complete found] at h
      cases h
    | incomplete =>
      rw [skipNoise_of_incomplete found] at h
      cases h
      exact Nat.le_refl _
    | invalid =>
      rw [skipNoise_of_invalid found] at h
      exact Nat.le_succ_of_le (ih h)

theorem pause_of_length_le {limit : Nat} {buffer : Bytes} (within : buffer.length ≤ limit) :
    pause limit buffer = .wait buffer := by
  rw [pause, if_neg (Nat.not_lt.2 within)]

theorem cutFrame_ne_failed {limit length : Nat} {head raw rest : Bytes} {error : Error}
    (within : (head ++ raw).length ≤ limit) :
    cutFrame limit length head raw ≠ .failed error rest := by
  unfold cutFrame
  split
  · simp [pause_of_length_le within]
  · simp [pause_of_length_le within]
  · split
    · simp
    · unfold cutAtBracket
      split
      · simp
      · simp [pause_of_length_le within]

/-- What is left of a buffer is no longer than the buffer, and only an overlong one makes cutting
fail. -/
theorem step_within {limit : Nat} {buffer : Bytes} (within : buffer.length ≤ limit) :
    (∀ rest, step limit buffer = .wait rest → rest.length ≤ buffer.length) ∧
      ∀ error rest, step limit buffer ≠ .failed error rest := by
  constructor
  · intro rest h
    rcases skipNoise_of_wait h with front | ⟨header, front⟩
    · exact length_le_of_skipNoise_open front
    · exact length_le_of_skipNoise_header front
  · intro error rest
    cases front : skipNoise buffer with
    | «open» left =>
      have short := length_le_of_skipNoise_open front
      rw [step_of_open front, pause_of_length_le (Nat.le_trans short within)]
      simp
    | header header place =>
      have short := length_le_of_skipNoise_header front
      rw [step_of_header front]
      apply cutFrame_ne_failed
      rw [List.take_append_drop]
      exact Nat.le_trans short within

theorem drain_within {limit : Nat} {buffer : Bytes} (within : buffer.length ≤ limit) :
    ((framing limit).drain buffer).failure = none ∧
      ((framing limit).drain buffer).rest.length ≤ buffer.length := by
  induction buffer using Framing.drain.induct (framing limit) with
  | case1 buffer unit rest cut _ ih =>
    have shorter := Nat.le_of_lt ((framing limit).shorter cut)
    obtain ⟨calm, left⟩ := ih (Nat.le_trans shorter within)
    rw [Framing.drain_eq_after_of_unit cut]
    exact ⟨calm, Nat.le_trans left shorter⟩
  | case2 buffer rest cut =>
    rw [Framing.drain_of_wait cut]
    exact ⟨rfl, (step_within within).1 rest cut⟩
  | case3 buffer error rest cut => exact absurd cut ((step_within within).2 error rest)

/-- A stream that fits into the limit never makes cutting fail, however it is divided. -/
theorem failure_feedAll_of_length_le {limit : Nat} {buffer : Bytes} {chunks : List Bytes}
    (within : buffer.length + chunks.flatten.length ≤ limit) :
    ((framing limit).feedAll buffer chunks).failure = none := by
  induction chunks generalizing buffer with
  | nil => rfl
  | cons chunk chunks ih =>
    rw [List.flatten_cons, List.length_append] at within
    have fits : (buffer ++ chunk).length ≤ limit := by
      rw [List.length_append]
      omega
    obtain ⟨calm, left⟩ := drain_within fits
    rw [List.length_append] at left
    rw [Framing.feedAll_cons_of_calm chunks calm]
    exact ih (by omega)

theorem step_nil (limit : Nat) : (framing limit).step [] = .wait [] := by
  simp [framing, step, skipNoise, pause]

/-- A prompt stream that fits into the limit is cut as in one piece, however it is divided. -/
theorem feedAll_eq_drain_of_prompt {limit : Nat} {chunks : List Bytes}
    (prompt : Prompt limit chunks.flatten) (within : chunks.flatten.length ≤ limit) :
    (framing limit).feedAll [] chunks = (framing limit).drain chunks.flatten := by
  have fits : ([] : Bytes).length + chunks.flatten.length ≤ limit := by
    rwa [List.length_nil, Nat.zero_add]
  exact Framing.feedAll_eq_drain (steady limit) (step_nil limit) prompt
    (failure_feedAll_of_length_le fits)

/-- A prompt stream comes to the same frames and leaves the same octets however it is divided, as
long as nothing outgrows the limit. -/
theorem feedAll_eq_of_prompt {limit : Nat} {chunks others : List Bytes}
    (same : chunks.flatten = others.flatten) (prompt : Prompt limit chunks.flatten)
    (calm : ((framing limit).feedAll [] chunks).failure = none)
    (otherCalm : ((framing limit).feedAll [] others).failure = none) :
    (framing limit).feedAll [] chunks = (framing limit).feedAll [] others := by
  have settled : (framing limit).step [] = .wait [] := by
    simp [framing, step, skipNoise, pause]
  rw [Framing.feedAll_eq_drain (steady limit) settled prompt calm,
    Framing.feedAll_eq_drain (steady limit) settled (same ▸ prompt) otherCalm, same]

/-- Noise, a frame with an escaped pair in it, a frame whose length is wrong, and a first part of a
frame; divided in two ways. -/
theorem feedAll_eq_of_divided_pair :
    (framing defaultLimit).feedAll []
        ["xx[3G*1*0003*a\x7d".toUTF8.toList, [3, 98, 93], "[3G*1*0009*LK][3G*".toUTF8.toList] =
      (framing defaultLimit).feedAll []
        ["x".toUTF8.toList, "x[3G*1*0003*a\x7d".toUTF8.toList ++ [3, 98, 93],
          "[3G*1*0009*LK][".toUTF8.toList, "3G*".toUTF8.toList] :=
  feedAll_eq_of_prompt (by decide +kernel) (prompt_of_length_le (by decide +kernel))
    (by decide +kernel) (by decide +kernel)

/-- A frame with an identifier of sixty digits. -/
def longHeaderFrame : Bytes :=
  "[3G*".toUTF8.toList ++ List.replicate 60 49 ++ "*0002*LK]".toUTF8.toList

/-- A header that is not told in time is lost if its frame is divided there. -/
theorem not_feedAll_eq_of_flatten_eq :
    ¬ ∀ (limit : Nat) (chunks others : List Bytes), chunks.flatten = others.flatten →
      ((framing limit).feedAll [] chunks).failure = none →
      ((framing limit).feedAll [] others).failure = none →
        ((framing limit).feedAll [] chunks).units = ((framing limit).feedAll [] others).units ∧
          ((framing limit).feedAll [] chunks).rest = ((framing limit).feedAll [] others).rest := by
  intro claim
  have whole : (framing defaultLimit).feedAll [] [longHeaderFrame] =
      ⟨[longHeaderFrame], [], none⟩ := by
    decide +kernel
  have divided : (framing defaultLimit).feedAll []
      [longHeaderFrame.take 64, longHeaderFrame.drop 64] = ⟨[], [], none⟩ := by
    decide +kernel
  have same :=
    (claim defaultLimit [longHeaderFrame] [longHeaderFrame.take 64, longHeaderFrame.drop 64]
    (by decide +kernel) (by rw [whole]) (by rw [divided])).1
  rw [whole, divided] at same
  cases same

end TrackerGateway.Watch
