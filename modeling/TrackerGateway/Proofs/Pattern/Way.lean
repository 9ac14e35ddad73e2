import TrackerGateway.Pattern.Match

/-!
# The ways of a pattern through a text

A pattern stands for the ways that lead through a text as it says (`Pattern.way`), with the marks
that are noted on them. The heads of a pattern are the first steps of its ways, and of no others:
what a head leads to is on a way of the pattern (`way_of_heads`), and where a way of the pattern
leads, a head does too, if perhaps with other marks (`exists_heads_of_way`).
-/

namespace TrackerGateway.Pattern

/-- A point in a text. -/
structure Spot where
  passed : List Char
  rest : List Char

namespace Spot

/-- The characters around the point. -/
def place (s : Spot) : Place := ⟨s.passed.getLast?, s.rest.head?⟩

/-- How many characters are before the point. -/
def position (s : Spot) : Nat := s.passed.length

end Spot

/-- Marks with the positions where they were noted. -/
abbrev Marks := List (Nat × Nat)

/-- Ways through a text: from one point, with marks, to another. -/
abbrev Way := Spot → Marks → Spot → Prop

namespace Way

/-- The way that stays where it is. -/
def stay : Way := fun s noted t => noted = [] ∧ t = s

/-- A way and then another. -/
def andThen (first second : Way) : Way := fun s noted t =>
  ∃ between before after, first s before between ∧ second between after t ∧ noted = before ++ after

/-- A way as often as wanted. -/
inductive Repeated (once : Way) : Way where
  | stop (s : Spot) : Repeated once s [] s
  | more {s between t : Spot} {before after : Marks} (first : once s before between)
      (rest : Repeated once between after t) : Repeated once s (before ++ after) t

/-- A way exactly so often. -/
def often (once : Way) : Nat → Way
  | 0 => stay
  | count + 1 => andThen once (often once count)

/-- A way at most so often. -/
def atMost (once : Way) : Nat → Way
  | 0 => stay
  | most + 1 => fun s noted t => stay s noted t ∨ andThen once (atMost once most) s noted t

theorem andThen.imp_left {first first' second : Way} {s t : Spot} {noted : Marks}
    (imp : ∀ {s noted t}, first s noted t → first' s noted t) (h : first.andThen second s noted t) :
    first'.andThen second s noted t := by
  obtain ⟨u, a, b, h₁, h₂, rfl⟩ := h
  exact ⟨u, a, b, imp h₁, h₂, rfl⟩

theorem stay_andThen (way : Way) : stay.andThen way = way := by
  funext s noted t
  refine propext ⟨?_, fun h => ⟨s, [], noted, ⟨rfl, rfl⟩, h, rfl⟩⟩
  rintro ⟨between, before, after, ⟨rfl, rfl⟩, h, rfl⟩
  exact h

theorem andThen_stay (way : Way) : way.andThen stay = way := by
  funext s noted t
  refine propext ⟨?_, fun h => ⟨t, noted, [], h, ⟨rfl, rfl⟩, (List.append_nil _).symm⟩⟩
  rintro ⟨between, before, after, h, ⟨rfl, rfl⟩, rfl⟩
  rwa [List.append_nil]

theorem andThen_assoc (first second third : Way) :
    (first.andThen second).andThen third = first.andThen (second.andThen third) := by
  funext s noted t
  refine propext ⟨?_, ?_⟩
  · rintro ⟨v, _, c, ⟨u, a, b, ha, hb, rfl⟩, hc, rfl⟩
    exact ⟨u, a, b ++ c, ha, ⟨v, b, c, hb, hc, rfl⟩, List.append_assoc ..⟩
  · rintro ⟨u, a, _, ha, ⟨v, b, c, hb, hc, rfl⟩, rfl⟩
    exact ⟨v, a ++ b, c, ⟨u, a, b, ha, hb, rfl⟩, hc, (List.append_assoc ..).symm⟩

end Way

/-- The ways of a pattern. -/
def way : Pattern → Way
  | .empty => Way.stay
  | .char set => fun s noted t =>
    ∃ c rest, s.rest = c :: rest ∧ set.has c = true ∧ noted = [] ∧ t = ⟨s.passed ++ [c], rest⟩
  | .mark slot => fun s noted t => noted = [(slot, s.position)] ∧ t = s
  | .look condition => fun s noted t => condition.holds s.place = true ∧ noted = [] ∧ t = s
  | .seq first second => first.way.andThen second.way
  | .alt first second => fun s noted t => first.way s noted t ∨ second.way s noted t
  | .plus part _ => part.way.andThen (Way.Repeated part.way)
  | .again part _ => Way.Repeated part.way
  | .times part count => part.way.often count
  | .upTo part most _ => part.way.atMost most

/-- The ways of patterns that follow one another. -/
def wayOf : List Pattern → Way
  | [] => Way.stay
  | p :: rest => p.way.andThen (wayOf rest)

theorem wayOf_append (first second : List Pattern) :
    wayOf (first ++ second) = (wayOf first).andThen (wayOf second) := by
  induction first with
  | nil => rw [List.nil_append, wayOf, Way.stay_andThen]
  | cons p rest ih => rw [List.cons_append, wayOf, wayOf, ih, Way.andThen_assoc]

theorem wayOf_singleton (p : Pattern) : wayOf [p] = p.way := Way.andThen_stay _

theorem way_sequence (ps : List Pattern) : (sequence ps).way = wayOf ps := by
  induction ps with
  | nil => rfl
  | cons p rest ih =>
    cases rest with
    | nil => exact (wayOf_singleton p).symm
    | cons q more => exact congrArg p.way.andThen ih

/-! ### Heads -/

namespace Head

/-- The ways that a head starts. -/
def way : Head → Way
  | .done marks => fun s noted t => noted = marks.map (·, s.position) ∧ t = s
  | .read marks set rest => fun s noted t =>
    ∃ c after more, s.rest = c :: after ∧ set.has c = true ∧
    wayOf rest ⟨s.passed ++ [c], after⟩ more t ∧ noted = marks.map (·, s.position) ++ more

/-- The ways that heads start. -/
def ways (heads : List Head) : Way := fun s noted t => ∃ h ∈ heads, h.way s noted t

theorem way_after (marks : List Nat) {h : Head} {s t : Spot} {noted : Marks} :
    (h.after marks).way s noted t ↔ ∃ more, h.way s more t ∧
        noted = marks.map (·, s.position) ++ more := by
  cases h with
  | done more =>
    simp only [after, way, List.map_append]
    grind
  | read more set rest =>
    simp only [after, way, List.map_append, List.append_assoc]
    grind

variable {hs : List Head} {s t u : Spot} {noted more : Marks}

/-- What a part and then what follows it start, where the heads of what follows start its ways. -/
theorem andThen_of_ways_andThen {next : Unit → List Head} {following : List Pattern}
    (sound : ∀ {noted t}, ways (next ()) s noted t → wayOf following s noted t)
    (h : ways (andThen hs next following) s noted t) :
    (ways hs).andThen (wayOf following) s noted t := by
  obtain ⟨head, mem, leads⟩ := h
  obtain ⟨first, mem₁, mem⟩ := List.mem_flatMap.1 mem
  cases first with
  | done marks =>
    obtain ⟨second, mem₂, rfl⟩ := List.mem_map.1 mem
    obtain ⟨more, onward, rfl⟩ := (way_after marks).1 leads
    exact ⟨s, _, more, ⟨_, mem₁, rfl, rfl⟩, sound ⟨second, mem₂, onward⟩, rfl⟩
  | read marks set rest =>
    obtain rfl := List.mem_singleton.1 mem
    obtain ⟨c, after, _, shape, has, onward, rfl⟩ := leads
    rw [wayOf_append] at onward
    obtain ⟨u, a, b, first, second, rfl⟩ := onward
    exact ⟨u, _, b, ⟨_, mem₁, c, after, a, shape, has, first, rfl⟩, second,
      (List.append_assoc ..).symm⟩

theorem andThen_of_ways_andThen_singleton {next : Unit → List Head} {p : Pattern}
    (sound : ∀ {noted t}, ways (next ()) s noted t → p.way s noted t)
    (h : ways (andThen hs next [p]) s noted t) : (ways hs).andThen p.way s noted t := by
  rw [← wayOf_singleton p] at sound ⊢
  exact andThen_of_ways_andThen sound h

theorem exists_ways_andThen (next : Unit → List Head) {following : List Pattern}
    (complete : ∀ {noted t}, wayOf following s noted t → ∃ noted, ways (next ()) s noted t)
    (h : ways hs s noted u) (onward : wayOf following u more t) :
    ∃ noted, ways (andThen hs next following) s noted t := by
  obtain ⟨head, mem, leads⟩ := h
  cases head with
  | done marks =>
    obtain ⟨rfl, rfl⟩ := leads
    obtain ⟨noted, second, mem₂, leads⟩ := complete onward
    exact ⟨_, second.after marks, List.mem_flatMap.2 ⟨_, mem, List.mem_map_of_mem mem₂⟩,
      (way_after marks).2 ⟨noted, leads, rfl⟩⟩
  | read marks set rest =>
    obtain ⟨c, after, a, shape, has, first, rfl⟩ := leads
    refine ⟨_, .read marks set (rest ++ following),
      List.mem_flatMap.2 ⟨_, mem, List.mem_singleton_self _⟩,
      c, after, a ++ more, shape, has, ?_, rfl⟩
    rw [wayOf_append]
    exact ⟨u, a, more, first, onward, rfl⟩

theorem exists_ways_andThen_singleton (next : Unit → List Head) (p : Pattern)
    (complete : ∀ {noted t}, p.way s noted t → ∃ noted, ways (next ()) s noted t)
    (h : ways hs s noted u) (onward : p.way u more t) :
    ∃ noted, ways (andThen hs next [p]) s noted t := by
  rw [← wayOf_singleton p] at complete onward
  exact exists_ways_andThen next complete h onward

theorem mem_reading {h : Head} :
    h ∈ reading hs ↔ h ∈ hs ∧ ∃ marks set rest, h = .read marks set rest := by
  cases h <;> simp [reading, List.mem_filter]

theorem mem_of_mem_firstDone {h : Head} (mem : h ∈ firstDone hs) : h ∈ hs := by
  induction hs with
  | nil => exact mem
  | cons head rest ih =>
    cases head with
    | done marks =>
      rcases List.mem_cons.1 mem with rfl | mem
      · exact List.mem_cons_self
      · exact List.mem_cons_of_mem _ (mem_reading.1 mem).1
    | read marks set more =>
      rcases List.mem_cons.1 mem with rfl | mem
      · exact List.mem_cons_self
      · exact List.mem_cons_of_mem _ (ih mem)

theorem read_mem_firstDone {marks : List Nat} {set : CharSet} {rest : List Pattern}
    (mem : .read marks set rest ∈ hs) : .read marks set rest ∈ firstDone hs := by
  induction hs with
  | nil => cases mem
  | cons head others ih =>
    cases head with
    | done first =>
      rcases List.mem_cons.1 mem with same | mem
      · cases same
      · exact List.mem_cons_of_mem _ (mem_reading.2 ⟨mem, _, _, _, rfl⟩)
    | read =>
      rcases List.mem_cons.1 mem with same | mem
      · rw [same]
        exact List.mem_cons_self
      · exact List.mem_cons_of_mem _ (ih mem)

theorem exists_done_mem_firstDone {marks : List Nat} (mem : .done marks ∈ hs) :
    ∃ marks, .done marks ∈ firstDone hs := by
  induction hs with
  | nil => cases mem
  | cons head others ih =>
    cases head with
    | done first => exact ⟨first, List.mem_cons_self⟩
    | read =>
      rcases List.mem_cons.1 mem with same | mem
      · cases same
      · obtain ⟨marks, mem⟩ := ih mem
        exact ⟨marks, List.mem_cons_of_mem _ mem⟩

theorem ways_of_ways_firstDone (h : ways (firstDone hs) s noted t) : ways hs s noted t := by
  obtain ⟨head, mem, leads⟩ := h
  exact ⟨head, mem_of_mem_firstDone mem, leads⟩

/-- Of heads that are done one is enough. -/
theorem exists_ways_firstDone (h : ways hs s noted t) : ∃ noted, ways (firstDone hs) s noted t := by
  obtain ⟨head, mem, leads⟩ := h
  cases head with
  | done marks =>
    obtain ⟨first, mem⟩ := exists_done_mem_firstDone mem
    exact ⟨_, _, mem, rfl, leads.2⟩
  | read => exact ⟨noted, _, read_mem_firstDone mem, leads⟩

theorem ways_orStop {greedy : Bool} :
    ways (orStop hs greedy) s noted t ↔ ways hs s noted t ∨ Way.stay s noted t := by
  have stops : (Head.done []).way s noted t ↔ Way.stay s noted t := Iff.rfl
  unfold orStop ways
  split <;> simp only [List.mem_append, List.mem_cons, List.not_mem_nil, or_false, or_and_right,
    exists_or, exists_eq_left, stops]
  exact or_comm

theorem ways_of_ways_looping (following : Pattern) (stops : ∀ s, following.way s [] s)
    (h : ways (looping hs following) s noted t) : (ways hs).andThen following.way s noted t := by
  obtain ⟨head, mem, leads⟩ := h
  obtain ⟨first, mem₁, rfl⟩ := List.mem_map.1 mem
  cases first with
  | done marks =>
    obtain ⟨rfl, rfl⟩ := leads
    exact ⟨t, _, [], ⟨_, mem₁, rfl, rfl⟩, stops t, (List.append_nil _).symm⟩
  | read marks set rest =>
    obtain ⟨c, after, _, shape, has, onward, rfl⟩ := leads
    rw [wayOf_append, wayOf_singleton] at onward
    obtain ⟨u, a, b, first, second, rfl⟩ := onward
    exact ⟨u, _, b, ⟨_, mem₁, c, after, a, shape, has, first, rfl⟩, second,
      (List.append_assoc ..).symm⟩

theorem ways_looping_of_read {marks : List Nat} {set : CharSet} {rest : List Pattern}
    (following : Pattern) (mem : .read marks set rest ∈ hs)
    (leads : (Head.read marks set rest).way s noted u) (onward : following.way u more t) :
    ∃ noted, ways (reading (looping hs following)) s noted t := by
  obtain ⟨c, after, a, shape, has, first, rfl⟩ := leads
  refine ⟨_, .read marks set (rest ++ [following]),
    mem_reading.2 ⟨List.mem_map.2 ⟨_, mem, rfl⟩, _, _, _, rfl⟩, c, after, a ++ more, shape,
    has, ?_, rfl⟩
  rw [wayOf_append, wayOf_singleton]
  exact ⟨u, a, more, first, onward, rfl⟩

theorem ways_of_ways_reading (h : ways (reading hs) s noted t) : ways hs s noted t := by
  obtain ⟨head, mem, leads⟩ := h
  exact ⟨head, (mem_reading.1 mem).1, leads⟩

end Head

/-- What the heads of a pattern start is a way of it. -/
theorem way_of_heads {p : Pattern} {s t : Spot} {noted : Marks}
    (h : Head.ways (p.heads s.place) s noted t) : p.way s noted t := by
  induction p generalizing s t noted with
  | empty =>
    obtain ⟨head, mem, leads⟩ := h
    obtain rfl := List.mem_singleton.1 mem
    exact leads
  | char set =>
    obtain ⟨head, mem, leads⟩ := h
    obtain rfl := List.mem_singleton.1 mem
    obtain ⟨c, after, more, shape, has, ⟨rfl, rfl⟩, rfl⟩ := leads
    exact ⟨c, after, shape, has, rfl, rfl⟩
  | mark slot =>
    obtain ⟨head, mem, leads⟩ := h
    obtain rfl := List.mem_singleton.1 mem
    exact leads
  | look condition =>
    obtain ⟨head, mem, leads⟩ := h
    rw [heads] at mem
    split at mem
    · rename_i holds
      obtain rfl := List.mem_singleton.1 mem
      exact ⟨holds, leads⟩
    · cases mem
  | seq first second ih₁ ih₂ =>
    have h := Head.ways_of_ways_firstDone h
    exact (Head.andThen_of_ways_andThen_singleton ih₂ h).imp_left ih₁
  | alt first second ih₁ ih₂ =>
    obtain ⟨head, mem, leads⟩ := Head.ways_of_ways_firstDone h
    exact (List.mem_append.1 mem).imp (fun mem => ih₁ ⟨head, mem, leads⟩) fun mem =>
      ih₂ ⟨head, mem, leads⟩
  | plus part greedy ih =>
    exact (Head.ways_of_ways_looping (.again part greedy) Way.Repeated.stop h).imp_left ih
  | again part greedy ih =>
    rcases Head.ways_orStop.1 h with h | ⟨rfl, rfl⟩
    · obtain ⟨u, a, b, first, rest, rfl⟩ :=
        Head.ways_of_ways_looping (.again part greedy) Way.Repeated.stop
        (Head.ways_of_ways_reading h)
      exact .more (ih first) rest
    · exact .stop t
  | times part count ih =>
    replace h := Head.ways_of_ways_firstDone h
    induction count generalizing noted t with
    | zero =>
      obtain ⟨head, mem, leads⟩ := h
      obtain rfl := List.mem_singleton.1 mem
      exact leads
    | succ count ih' => exact (Head.andThen_of_ways_andThen_singleton ih' h).imp_left ih
  | upTo part most greedy ih =>
    induction most generalizing noted t with
    | zero =>
      obtain ⟨head, mem, leads⟩ := h
      obtain rfl := List.mem_singleton.1 mem
      exact leads
    | succ most ih' =>
      rcases Head.ways_orStop.1 (Head.ways_of_ways_firstDone h) with h | stays
      · exact .inr ((Head.andThen_of_ways_andThen_singleton ih' h).imp_left ih)
      · exact .inl stays

/-- A turn that uses up nothing leads nowhere new, so the first one that uses up something is a
head. -/
theorem exists_heads_again {part : Pattern} (greedy : Bool) {s t : Spot} {noted : Marks}
    (complete : ∀ {s t : Spot} {noted : Marks}, part.way s noted t →
      ∃ noted, Head.ways (part.heads s.place) s noted t)
    (h : Way.Repeated part.way s noted t) :
    ∃ noted, Head.ways ((again part greedy).heads s.place) s noted t := by
  induction h with
  | stop s => exact ⟨[], Head.ways_orStop.2 (.inr ⟨rfl, rfl⟩)⟩
  | more first rest ih =>
    obtain ⟨_, head, mem, leads⟩ := complete first
    cases head with
    | done marks =>
      obtain ⟨-, rfl⟩ := leads
      exact ih
    | read marks set more =>
      obtain ⟨noted, h⟩ := Head.ways_looping_of_read (.again part greedy) mem leads rest
      exact ⟨noted, Head.ways_orStop.2 (.inl h)⟩

/-- Where a pattern leads, its heads lead. -/
theorem exists_heads_of_way {p : Pattern} {s t : Spot} {noted : Marks} (h : p.way s noted t) :
    ∃ noted, Head.ways (p.heads s.place) s noted t := by
  induction p generalizing s t noted with
  | empty => exact ⟨noted, _, List.mem_singleton_self _, h⟩
  | char set =>
    obtain ⟨c, rest, shape, has, rfl, rfl⟩ := h
    exact ⟨_, _, List.mem_singleton_self _, c, rest, [], shape, has, ⟨rfl, rfl⟩, rfl⟩
  | mark slot => exact ⟨noted, _, List.mem_singleton_self _, h⟩
  | look condition =>
    obtain ⟨holds, stays⟩ := h
    refine ⟨noted, .done [], ?_, stays⟩
    rw [heads, if_pos holds]
    exact List.mem_singleton_self _
  | seq first second ih₁ ih₂ =>
    obtain ⟨u, a, b, h₁, h₂, rfl⟩ := h
    obtain ⟨a, h₁⟩ := ih₁ h₁
    obtain ⟨noted, h⟩ :=
      Head.exists_ways_andThen_singleton (fun _ => second.heads s.place) second ih₂ h₁ h₂
    exact Head.exists_ways_firstDone h
  | alt first second ih₁ ih₂ =>
    have chosen : ∃ noted, Head.ways (first.heads s.place ++ second.heads s.place) s noted t := by
      rcases h with h | h
      · obtain ⟨noted, head, mem, leads⟩ := ih₁ h
        exact ⟨noted, head, List.mem_append_left _ mem, leads⟩
      · obtain ⟨noted, head, mem, leads⟩ := ih₂ h
        exact ⟨noted, head, List.mem_append_right _ mem, leads⟩
    obtain ⟨noted, h⟩ := chosen
    exact Head.exists_ways_firstDone h
  | again part greedy ih => exact exists_heads_again greedy ih h
  | plus part greedy ih =>
    obtain ⟨u, a, b, first, rest, rfl⟩ := h
    obtain ⟨_, head, mem, leads⟩ := ih first
    cases head with
    | read marks set more =>
      obtain ⟨noted, h⟩ := Head.ways_looping_of_read (.again part greedy) mem leads rest
      exact ⟨noted, Head.ways_of_ways_reading h⟩
    | done marks =>
      obtain ⟨-, rfl⟩ := leads
      obtain ⟨noted, h⟩ := exists_heads_again greedy ih rest
      rcases Head.ways_orStop.1 h with h | ⟨-, rfl⟩
      · exact ⟨noted, Head.ways_of_ways_reading h⟩
      · exact ⟨_, .done marks, List.mem_map.2 ⟨_, mem, rfl⟩, rfl, rfl⟩
  | times part count ih =>
    suffices looped : ∃ noted, Head.ways (Head.times (part.heads s.place) part count) s noted t by
      obtain ⟨noted, h⟩ := looped
      exact Head.exists_ways_firstDone h
    induction count generalizing noted t with
    | zero => exact ⟨noted, _, List.mem_singleton_self _, h⟩
    | succ count ih' =>
      obtain ⟨u, a, b, first, rest, rfl⟩ :=
        (show part.way.andThen (part.way.often count) s noted t from h)
      obtain ⟨a, first⟩ := ih first
      exact Head.exists_ways_andThen_singleton _ (.times part count) ih' first rest
  | upTo part most greedy ih =>
    induction most generalizing noted t with
    | zero => exact ⟨noted, _, List.mem_singleton_self _, h⟩
    | succ most ih' =>
      have looped : ∃ noted, Head.ways (Head.orStop (Head.andThen (part.heads s.place)
          (fun _ => Head.upTo (part.heads s.place) part greedy most) [.upTo part most greedy])
            greedy) s
          noted t := by
        rcases (show _ ∨ part.way.andThen (part.way.atMost most) s noted t from h) with stays | h
        · exact ⟨noted, Head.ways_orStop.2 (.inr stays)⟩
        · obtain ⟨u, a, b, first, rest, rfl⟩ := h
          obtain ⟨a, first⟩ := ih first
          obtain ⟨noted, h⟩ := Head.exists_ways_andThen_singleton
            (fun _ => Head.upTo (part.heads s.place) part greedy most)
              (.upTo part most greedy) ih' first rest
          exact ⟨noted, Head.ways_orStop.2 (.inl h)⟩
      obtain ⟨noted, h⟩ := looped
      exact Head.exists_ways_firstDone h

/-- What the heads of patterns that follow one another start is a way of them. -/
theorem wayOf_of_headsOf {ps : List Pattern} {s t : Spot} {noted : Marks}
    (h : Head.ways (headsOf s.place ps) s noted t) : wayOf ps s noted t := by
  induction ps generalizing noted t with
  | nil =>
    obtain ⟨head, mem, leads⟩ := h
    obtain rfl := List.mem_singleton.1 mem
    exact leads
  | cons p rest ih => exact (Head.andThen_of_ways_andThen ih h).imp_left way_of_heads

theorem exists_headsOf_of_wayOf {ps : List Pattern} {s t : Spot} {noted : Marks}
    (h : wayOf ps s noted t) : ∃ noted, Head.ways (headsOf s.place ps) s noted t := by
  induction ps generalizing noted t with
  | nil => exact ⟨noted, _, List.mem_singleton_self _, h⟩
  | cons p rest ih =>
    obtain ⟨u, a, b, first, onward, rfl⟩ := h
    obtain ⟨a, first⟩ := exists_heads_of_way first
    exact Head.exists_ways_andThen (fun _ => headsOf s.place rest) ih first onward

end TrackerGateway.Pattern
