import TrackerGateway.Proofs.Pattern.Way

/-!
# What a search finds

The threads of a search are ways of its pattern as far as they have come (`Thread.Reached`), and
where a way of the pattern goes on from a thread, the search goes on with it or with another that
has as much left. So what a search finds are the marks of a way through the text
(`exists_way_of_match?`), and where there is a way from the start of the text it finds some
(`isSome_match?_of_way`).
-/

namespace TrackerGateway.Pattern

namespace Marks

/-- Places of marks once these are noted too. -/
def onto (marks : Marks) (slots : Slots) : Slots :=
  marks.foldl (fun slots m => slots.set m.1 (some m.2)) slots

theorem onto_append (first second : Marks) (slots : Slots) :
    (first ++ second).onto slots = second.onto (first.onto slots) :=
  List.foldl_append

theorem noted_eq (marks : List Nat) (position : Nat) (slots : Slots) :
    noted marks position slots = onto (marks.map (·, position)) slots := by
  rw [onto, List.foldl_map]
  rfl

end Marks

/-- The text that a point is in. -/
def Spot.text (s : Spot) : List Char := s.passed ++ s.rest

/-- Whether a thread is a way of the one it started from, which somewhere in a text led to a
point. -/
def Thread.Reached (t start : Thread) (text : List Char) (s : Spot) : Prop :=
  ∃ origin marks, origin.text = text ∧ t.slots = Marks.onto marks start.slots ∧
    ∀ more u, wayOf t.rest s more u → wayOf start.rest origin (marks ++ more) u

/-- Whether places of marks are those of a way through a text. -/
def Answers (start : Thread) (text : List Char) (slots : Slots) : Prop :=
  ∃ origin marks u, origin.text = text ∧ wayOf start.rest origin marks u ∧
    slots = Marks.onto marks start.slots

variable {start t : Thread} {text : List Char} {s : Spot}

/-! ### Only ways are found -/

theorem Thread.Reached.done (reached : t.Reached start text s) {marks : List Nat}
    (mem : .done marks ∈ headsOf s.place t.rest) :
    Answers start text (noted marks s.position t.slots) := by
  obtain ⟨origin, before, whole, slots, onward⟩ := reached
  refine ⟨origin, before ++ marks.map (·, s.position), s, whole, onward _ _ ?_, ?_⟩
  · exact wayOf_of_headsOf ⟨_, mem, rfl, rfl⟩
  · rw [Marks.noted_eq, slots, Marks.onto_append]

theorem Thread.Reached.read (reached : t.Reached start text s) {marks : List Nat} {set : CharSet}
    {rest : List Pattern} (mem : .read marks set rest ∈ headsOf s.place t.rest) {c : Char}
    {after : List Char} (shape : s.rest = c :: after) (has : set.has c = true) :
    Thread.Reached ⟨rest, noted marks s.position t.slots⟩ start text ⟨s.passed ++ [c], after⟩ := by
  obtain ⟨origin, before, whole, slots, onward⟩ := reached
  refine ⟨origin, before ++ marks.map (·, s.position), whole, ?_, fun more u way => ?_⟩
  · rw [Marks.noted_eq, slots, Marks.onto_append]
  · rw [List.append_assoc]
    exact onward _ _ (wayOf_of_headsOf ⟨_, mem, c, after, more, shape, has, way, rfl⟩)

/-- Threads that take a character are ways, and so is one that is done. -/
theorem reached_sweepHeads (reached : t.Reached start text s) {hs : List Head}
    (sub : ∀ h ∈ hs, h ∈ headsOf s.place t.rest) :
    (∀ c after, s.rest = c :: after → ∀ moved ∈ (sweepHeads s.rest.head? s.position t.slots hs).1,
        moved.Reached start text ⟨s.passed ++ [c], after⟩) ∧
      ∀ slots, (sweepHeads s.rest.head? s.position t.slots hs).2 = some slots →
          Answers start text slots := by
  induction hs with
  | nil => exact ⟨fun _ _ _ _ mem => absurd mem List.not_mem_nil, nofun⟩
  | cons h more ih =>
    obtain ⟨moves, finds⟩ := ih fun h mem => sub h (List.mem_cons_of_mem _ mem)
    have here := sub h List.mem_cons_self
    cases h with
    | done marks =>
      refine ⟨fun _ _ _ _ mem => absurd mem List.not_mem_nil, fun slots found => ?_⟩
      cases found
      exact reached.done here
    | read marks set rest =>
      cases shape : s.rest with
      | nil =>
        rw [shape] at moves finds
        exact ⟨nofun, finds⟩
      | cons d others =>
        rw [shape] at moves finds
        refine ⟨fun c after same moved mem => ?_, finds⟩
        cases same
        simp only [sweepHeads, List.head?_cons] at mem
        split at mem
        · rename_i has
          rcases List.mem_cons.1 mem with rfl | mem
          · exact reached.read here shape has
          · exact moves d others rfl moved mem
        · exact moves d others rfl moved mem

theorem reached_sweep {threads : List Thread} (reached : ∀ t ∈ threads, t.Reached start text s) :
    (∀ c after, s.rest = c :: after → ∀ moved ∈ (sweep s.place s.position threads).1,
        moved.Reached start text ⟨s.passed ++ [c], after⟩) ∧
      ∀ slots, (sweep s.place s.position threads).2 = some slots → Answers start text slots := by
  induction threads with
  | nil => exact ⟨fun _ _ _ _ mem => absurd mem List.not_mem_nil, nofun⟩
  | cons t more ih =>
    obtain ⟨moves, finds⟩ := reached_sweepHeads (reached t List.mem_cons_self) fun _ mem => mem
    obtain ⟨othersMove, othersFind⟩ := ih fun t mem => reached t (List.mem_cons_of_mem _ mem)
    simp only [sweep]
    rw [show s.place.after = s.rest.head? from rfl]
    generalize sweepHeads s.rest.head? s.position t.slots (headsOf s.place t.rest) =
      result at moves finds
    obtain ⟨moved, found⟩ := result
    cases found with
    | some slots => exact ⟨moves, finds⟩
    | none =>
      refine ⟨fun c after shape thread mem => ?_, othersFind⟩
      rcases List.mem_append.1 mem with mem | mem
      · exact moves c after shape thread mem
      · exact othersMove c after shape thread mem

theorem mem_of_mem_distinct {threads : List Thread} (mem : t ∈ distinct threads) : t ∈ threads := by
  have kept : ∀ seen : List Thread, t ∈ threads.foldl
      (fun seen t => if seen.any fun s => s.rest == t.rest then seen else t :: seen) seen →
        t ∈ seen ∨ t ∈ threads := by
    clear mem
    induction threads with
    | nil => exact fun seen mem => .inl mem
    | cons u more ih =>
      intro seen mem
      rcases ih _ mem with mem | mem
      · dsimp only at mem
        split at mem
        · exact .inl mem
        · rcases List.mem_cons.1 mem with rfl | mem
          · exact .inr List.mem_cons_self
          · exact .inl mem
      · exact .inr (List.mem_cons_of_mem _ mem)
  exact (kept [] (List.mem_reverse.1 mem)).resolve_left List.not_mem_nil

theorem exists_mem_distinct {threads : List Thread} (mem : t ∈ threads) :
    ∃ u ∈ distinct threads, u.rest = t.rest := by
  have kept : ∀ seen : List Thread, (t ∈ threads ∨ ∃ u ∈ seen, u.rest = t.rest) →
      ∃ u ∈ threads.foldl
          (fun seen t => if seen.any fun s => s.rest == t.rest then seen else t :: seen) seen,
        u.rest = t.rest := by
    clear mem
    induction threads with
    | nil => exact fun seen mem => mem.resolve_left List.not_mem_nil
    | cons v more ih =>
      intro seen mem
      refine ih _ ?_
      rcases mem with mem | ⟨u, mem, same⟩
      · rcases List.mem_cons.1 mem with rfl | mem
        · right
          dsimp only
          split
          · rename_i known
            obtain ⟨u, mem, same⟩ := List.any_eq_true.1 known
            exact ⟨u, mem, eq_of_beq same⟩
          · exact ⟨t, List.mem_cons_self, rfl⟩
        · exact .inl mem
      · right
        dsimp only
        split
        · exact ⟨u, mem, same⟩
        · exact ⟨u, List.mem_cons_of_mem _ mem, same⟩
  obtain ⟨u, mem, same⟩ := kept [] (.inl mem)
  exact ⟨u, List.mem_reverse.2 mem, same⟩

/-- What a search finds are the marks of a way. -/
theorem answers_of_search {passed rest : List Char} {threads : List Thread} {found : Option Slots}
    (reached : ∀ t ∈ threads, t.Reached start (passed ++ rest) ⟨passed, rest⟩)
    (earlier : ∀ slots, found = some slots → Answers start (passed ++ rest) slots) {slots : Slots}
    (h : search start passed.getLast? passed.length threads found rest = some slots) :
    Answers start (passed ++ rest) slots := by
  have starts (passed rest : List Char) : start.Reached start (passed ++ rest) ⟨passed, rest⟩ :=
    ⟨⟨passed, rest⟩, [], rfl, rfl, fun _ _ way => way⟩
  have joined {passed rest : List Char} {threads : List Thread}
      (reached : ∀ t ∈ threads, t.Reached start (passed ++ rest) ⟨passed, rest⟩)
        (found : Option Slots) :
      ∀ t ∈ if found.isNone then threads ++ [start] else threads,
        t.Reached start (passed ++ rest) ⟨passed, rest⟩ := by
    split
    · intro t mem
      rcases List.mem_append.1 mem with mem | mem
      · exact reached t mem
      · rw [List.mem_singleton.1 mem]
        exact starts passed rest
    · exact reached
  have better {text : List Char} {first second : Option Slots}
      (one : ∀ slots, first = some slots → Answers start text slots)
      (two : ∀ slots, second = some slots → Answers start text slots) {slots : Slots}
      (h : (first.orElse fun _ => second) = some slots) : Answers start text slots := by
    cases first with
    | some other => exact one slots h
    | none => exact two slots h
  induction rest generalizing passed threads found with
  | nil =>
    rw [search] at h
    exact better (reached_sweep (joined reached found)).2 earlier h
  | cons c after ih =>
    obtain ⟨moves, finds⟩ := reached_sweep (joined reached found)
    rw [search] at h
    have whole : passed ++ c :: after = (passed ++ [c]) ++ after := by simp
    rw [whole] at moves finds earlier ⊢
    refine ih (fun t mem => moves c after rfl t (mem_of_mem_distinct mem))
      (fun slots => better finds earlier) ?_
    rw [List.getLast?_concat, List.length_append]
    exact h

/-! ### A way is found -/

/-- Whether a way goes on from one of some threads behind the next character. -/
def GoesOn (threads : List Thread) (s : Spot) : Prop :=
  ∃ c after, s.rest = c :: after ∧ ∃ t ∈ threads, ∃ noted u,
    wayOf t.rest ⟨s.passed ++ [c], after⟩ noted u

theorem sweepHeads_of_ways {hs : List Head} (slots : Slots) {noted : Marks} {u : Spot}
    (h : Head.ways hs s noted u) :
    (sweepHeads s.rest.head? s.position slots hs).2.isSome = true ∨
      GoesOn (sweepHeads s.rest.head? s.position slots hs).1 s := by
  obtain ⟨head, mem, leads⟩ := h
  induction hs with
  | nil => cases mem
  | cons first more ih =>
    cases first with
    | done marks => exact .inl rfl
    | read marks set rest =>
      rcases List.mem_cons.1 mem with rfl | mem
      · obtain ⟨c, after, onward, shape, has, way, -⟩ := leads
        right
        refine ⟨c, after, shape, ⟨rest, Pattern.noted marks s.position slots⟩, ?_, onward, u, way⟩
        simp only [sweepHeads, shape, List.head?_cons, has, if_true]
        exact List.mem_cons_self
      · rcases ih mem with found | ⟨c, after, shape, t, mem, way⟩
        · left
          simp only [sweepHeads]
          split <;> exact found
        · right
          refine ⟨c, after, shape, t, ?_, way⟩
          simp only [sweepHeads, shape, List.head?_cons] at mem ⊢
          split
          · exact List.mem_cons_of_mem _ mem
          · exact mem

theorem sweep_of_way {threads : List Thread} (mem : t ∈ threads) {noted : Marks} {u : Spot}
    (h : wayOf t.rest s noted u) :
    (sweep s.place s.position threads).2.isSome = true ∨
        GoesOn (sweep s.place s.position threads).1 s := by
  obtain ⟨noted, h⟩ := exists_headsOf_of_wayOf h
  induction threads with
  | nil => cases mem
  | cons first more ih =>
    simp only [sweep]
    rw [show s.place.after = s.rest.head? from rfl]
    rcases List.mem_cons.1 mem with rfl | mem
    · have onward := sweepHeads_of_ways t.slots h
      generalize sweepHeads s.rest.head? s.position t.slots (headsOf s.place t.rest) =
        result at onward
      obtain ⟨moved, found⟩ := result
      cases found with
      | some slots => exact .inl rfl
      | none =>
        obtain ⟨c, after, shape, v, mem, way⟩ := onward.resolve_left nofun
        exact .inr ⟨c, after, shape, v, List.mem_append_left _ mem, way⟩
    · generalize sweepHeads s.rest.head? s.position first.slots (headsOf s.place first.rest) =
        result
      obtain ⟨moved, found⟩ := result
      cases found with
      | some slots => exact .inl rfl
      | none =>
        rcases ih mem with found | ⟨c, after, shape, v, mem, way⟩
        · exact .inl found
        · exact .inr ⟨c, after, shape, v, List.mem_append_right _ mem, way⟩

theorem isSome_orElse {first second : Option Slots}
    (h : first.isSome = true ∨ second.isSome = true) :
    (first.orElse fun _ => second).isSome = true := by
  cases first <;> simp_all

/-- A search goes on behind a character. -/
theorem search_behind (passed : List Char) (c : Char) (threads : List Thread) (found : Option Slots)
    (rest : List Char) :
    search start (some c) (passed.length + 1) threads found rest =
      search start (passed ++ [c]).getLast? (passed ++ [c]).length threads found rest := by
  rw [List.getLast?_concat, List.length_append]
  rfl

/-- A search finds something if it had before, or if a way goes on from one of its threads. -/
theorem isSome_search {passed rest : List Char} {threads : List Thread} {found : Option Slots}
    (h : found.isSome = true ∨ ∃ t ∈ if found.isNone then threads ++ [start] else threads,
      ∃ noted u, wayOf t.rest ⟨passed, rest⟩ noted u) :
    (search start passed.getLast? passed.length threads found rest).isSome = true := by
  have stays {t : Thread} {threads : List Thread} (mem : t ∈ threads) (found : Option Slots) :
      t ∈ if found.isNone then threads ++ [start] else threads := by
    split
    · exact List.mem_append_left _ mem
    · exact mem
  induction rest generalizing passed threads found with
  | nil =>
    rw [search]
    refine isSome_orElse ?_
    rcases h with h | ⟨t, mem, noted, u, way⟩
    · exact .inr h
    · exact .inl ((sweep_of_way mem way).resolve_right fun ⟨c, after, shape, _⟩ => nomatch shape)
  | cons c after ih =>
    rw [search]
    show (search start (some c) (passed.length + 1) _ _ after).isSome = true
    rw [search_behind]
    refine ih ?_
    rcases h with h | ⟨t, mem, noted, u, way⟩
    · exact .inl (isSome_orElse (.inr h))
    · rcases sweep_of_way mem way with better | ⟨d, others, shape, v, mem, noted, u, way⟩
      · exact .inl (isSome_orElse (.inl better))
      · cases shape
        obtain ⟨w, mem, same⟩ := exists_mem_distinct mem
        exact .inr ⟨w, stays mem _, noted, u, same ▸ way⟩

/-- A search finds something if a way of what it looks for starts further on. -/
theorem isSome_search_of_ahead {passed front back : List Char} {threads : List Thread}
    {found : Option Slots} (h : ∃ noted u, wayOf start.rest ⟨passed ++ front, back⟩ noted u) :
    (search start passed.getLast? passed.length threads found (front ++ back)).isSome = true := by
  induction front generalizing passed threads found with
  | nil =>
    rw [List.append_nil] at h
    cases found with
    | some slots => exact isSome_search (.inl rfl)
    | none => exact isSome_search (.inr ⟨start, List.mem_append_right _ List.mem_cons_self, h⟩)
  | cons c front ih =>
    rw [List.cons_append, search]
    show (search start (some c) (passed.length + 1) _ _ (front ++ back)).isSome = true
    rw [search_behind]
    refine ih ?_
    rwa [List.append_assoc, List.singleton_append]

/-! ### Matches -/

/-- The texts of so many groups, by the marks on a way through a text. -/
def Marks.groups (marks : Marks) (count : Nat) (text : List Char) : List (Option (List Char)) :=
  let slots := Marks.onto marks (List.replicate (2 * count) none)
  (List.range count).map fun i => slice text (slots.getD (2 * i) none) (slots.getD (2 * i + 1) none)

/-- The groups of a match are those of a way. -/
theorem Compiled.exists_way_of_match? {p : Compiled} {groups : List (Option (List Char))}
    (h : p.match? text = some groups) :
    ∃ origin marks u, origin.text = text ∧ p.pattern.way origin marks u ∧
      groups = Marks.groups marks p.groupCount text := by
  obtain ⟨slots, found, rfl⟩ := Option.map_eq_some_iff.1 h
  change search _ ([] : List Char).getLast? ([] : List Char).length [] none text =
    some slots at found
  obtain ⟨origin, marks, u, whole, way, rfl⟩ :=
    answers_of_search (List.forall_mem_nil _) (by nofun) found
  rw [wayOf_singleton] at way
  exact ⟨origin, marks, u, whole, way, rfl⟩

/-- There is a match where a way leads through a text, from whatever point of it. -/
theorem Compiled.isSome_match?_iff {p : Compiled} :
    (p.match? text).isSome = true ↔ ∃ origin marks u, origin.text = text ∧
        p.pattern.way origin marks u := by
  constructor
  · intro found
    obtain ⟨groups, found⟩ := Option.isSome_iff_exists.1 found
    obtain ⟨origin, marks, u, whole, way, -⟩ := exists_way_of_match? found
    exact ⟨origin, marks, u, whole, way⟩
  · rintro ⟨⟨passed, rest⟩, marks, u, rfl, way⟩
    rw [match?, Option.isSome_map]
    change (search _ ([] : List Char).getLast? ([] : List Char).length
      [] none (passed ++ rest)).isSome = true
    refine isSome_search_of_ahead ⟨marks, u, ?_⟩
    rwa [wayOf_singleton]

/-- Where a way leads through a text from its start, there is a match. -/
theorem Compiled.isSome_match?_of_way {p : Compiled} {marks : Marks} {u : Spot}
    (h : p.pattern.way ⟨[], text⟩ marks u) : (p.match? text).isSome = true :=
  isSome_match?_iff.2 ⟨_, marks, u, rfl, h⟩

end TrackerGateway.Pattern
