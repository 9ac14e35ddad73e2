import TrackerGateway.Proofs.Bytes.Digits
import TrackerGateway.Proofs.Guarded.Cursor

/-!
# All that can be asked of a reader

What a request comes to is said by the octets and a place in them alone (`Request.Meets`): a read
takes just the octets behind the place, and where they are not all there it fails and the place
stays. In the course of any requests the place never passes the end. A cursor, whose place is a
number that nothing but its reads keeps from that, goes through the same course without a trap
(`course_of_requests`).
-/

namespace TrackerGateway

open Guarded

namespace Reader

/-- What can be asked of a reader. -/
inductive Request where
  | seek (position : Nat)
  | skip (count : Nat)
  | slice (count : Nat)
  /-- A number of so many octets, least significant first. -/
  | le (width : Nat)
  /-- A number of so many octets, most significant first. -/
  | be (width : Nat)
  | signedLe (width : Nat)
  | text (width : Nat)
  | peek (offset : Nat)
  | peekLe16 (offset : Nat)
  | fields (flags : Nat) (table : List FlagField)

/-- What a request comes to. -/
inductive Outcome where
  | done
  | octets (octets : Bytes)
  | number (n : Nat)
  | integer (n : Int)
  | text (text : String)
  /-- The fields that were read, and the cause if there should have been more. -/
  | fields (found : List (FlagField × Bytes)) (fault : Option ProtocolFault)
  | failed (fault : ProtocolFault)

/-- What a read comes to, and the reader after it, which is the same if the read failed. -/
def kept {α : Type} (r : Reader) (make : α → Outcome) :
    Except ProtocolFault (α × Reader) → Outcome × Reader
  | .ok (a, after) => (make a, after)
  | .error fault => (.failed fault, r)

/-- Whether the bits that a table names are bits of a word. -/
def InWord (table : List FlagField) : Prop := ∀ field ∈ table, field.bit < 64

instance (table : List FlagField) : Decidable (InWord table) :=
  inferInstanceAs (Decidable (∀ field ∈ table, field.bit < 64))

/-- In a table whose bits are bits of a word, those fields are announced whose bits are set. -/
theorem InWord.filter_isSet {table : List FlagField} (inWord : InWord table) (flags : Nat) :
    table.filter (Bits.isSet flags ·.bit) = table.filter (flags.testBit ·.bit) :=
  List.filter_congr fun field member => Bits.isSet_of_lt (inWord field member)

namespace Request

/-- Does what a reader is asked for. -/
def run (r : Reader) : Request → Outcome × Reader
  | .seek position => r.kept (fun _ => .done) ((r.seek position).map ((), ·))
  | .skip count => r.kept (fun _ => .done) ((r.skip count).map ((), ·))
  | .slice count => r.kept .octets (r.take count)
  | .le width => r.kept .number (r.le width)
  | .be width => r.kept .number (r.be width)
  | .signedLe width => r.kept .integer (r.signedLe width)
  | .text width => r.kept .text (r.text width)
  | .peek offset => r.kept (fun octet => .number octet.toNat) ((r.peek offset).map (·, r))
  | .peekLe16 offset => r.kept .number ((r.peekLe16 offset).map (·, r))
  | .fields flags table =>
    let (found, after, fault) := r.fields flags table
    (.fields found fault, after)

/-- Does one request after the other. -/
def runAll (r : Reader) : List Request → List Outcome × Reader
  | [] => ([], r)
  | request :: rest =>
    let (outcome, after) := request.run r
    let (outcomes, last) := runAll after rest
    (outcome :: outcomes, last)

/-! ### What a request has to come to -/

/-- A read of so many octets at a place: something is made of just these octets and the next place
is behind them, or they are not all there, which is told, and the place stays. -/
def Fetches (octets : Bytes) (place count : Nat) (make : Bytes → Outcome) (outcome : Outcome)
    (next : Nat) : Prop :=
  if place + count ≤ octets.length then
    outcome = make ((octets.drop place).take count) ∧ next = place + count
  else outcome = .failed (.truncated count (octets.length - place)) ∧ next = place

/-- A look at so many octets some places ahead. -/
def Glances (octets : Bytes) (place offset width : Nat) (outcome : Outcome) (next : Nat) : Prop :=
  next = place ∧
    if place + offset + width ≤ octets.length then
      outcome = .number (Bytes.little ((octets.drop (place + offset)).take width))
    else outcome = .failed (.truncated (offset + width) (octets.length - place))

/-- Fields that are wanted at a place. They come in their order, each with so many octets as it is
wide, one behind the other, up to the first that does not fit. -/
structure Gathers (octets : Bytes) (place : Nat) (wanted : List FlagField)
    (found : List (FlagField × Bytes)) (fault : Option ProtocolFault) (next : Nat) : Prop where
  inside : next ≤ octets.length
  consecutive : octets.drop place = (found.map (·.2)).flatten ++ octets.drop next
  wide : ∀ field ∈ found, field.2.length = field.1.width
  ends : (fault = none ∧ wanted = found.map (·.1)) ∨
    ∃ field missing, wanted = found.map (·.1) ++ field :: missing ∧
      octets.length < next + field.width ∧
        fault = some (.truncated field.width (octets.length - next))

namespace Gathers

variable {octets : Bytes} {place next : Nat} {field : FlagField} {wanted : List FlagField}
  {found : List (FlagField × Bytes)} {fault : Option ProtocolFault}

theorem nil (inside : place ≤ octets.length) : Gathers octets place [] [] none place :=
  ⟨inside, rfl, by simp, .inl ⟨rfl, rfl⟩⟩

/-- A field that fits comes before those behind it. -/
theorem cons (gathers : Gathers octets (place + field.width) wanted found fault next)
    (enough : place + field.width ≤ octets.length) :
    Gathers octets place (field :: wanted)
      ((field, (octets.drop place).take field.width) :: found) fault next := by
  obtain ⟨stops, consecutive, wide, ends⟩ := gathers
  refine ⟨stops, ?_, List.forall_mem_cons.2 ⟨?_, wide⟩, ?_⟩
  · rw [List.map_cons, List.flatten_cons, List.append_assoc, ← consecutive, ← List.drop_drop,
      List.take_append_drop]
  · dsimp only
    rw [List.length_take, List.length_drop]
    omega
  · rcases ends with ⟨rfl, rfl⟩ | ⟨missed, missing, rfl, short, rfl⟩
    · exact .inl ⟨rfl, rfl⟩
    · exact .inr ⟨missed, missing, rfl, short, rfl⟩

/-- A field that does not fit is the last that is tried. -/
theorem short (inside : place ≤ octets.length) (missing : octets.length < place + field.width) :
    Gathers octets place (field :: wanted) []
      (some (.truncated field.width (octets.length - place))) place :=
  ⟨inside, rfl, by simp, .inr ⟨field, wanted, rfl, missing, rfl⟩⟩

end Gathers

/-- What a request has to come to at a place, and the place after it. -/
def Meets (octets : Bytes) (place : Nat) (outcome : Outcome) (next : Nat) : Request → Prop
  | .seek position =>
    if position ≤ octets.length then outcome = .done ∧ next = position
    else outcome = .failed (.truncated position octets.length) ∧ next = place
  | .skip count => Fetches octets place count (fun _ => .done) outcome next
  | .slice count => Fetches octets place count .octets outcome next
  | .le width => Fetches octets place width (fun field => .number (Bytes.little field)) outcome next
  | .be width => Fetches octets place width (fun field => .number (Bytes.big field)) outcome next
  | .signedLe width =>
    Fetches octets place width
      (fun field => .integer (Bytes.twosComplement (8 * width) (Bytes.little field))) outcome next
  | .text width => Fetches octets place width (fun field => .text (paddedText field)) outcome next
  | .peek offset => Glances octets place offset 1 outcome next
  | .peekLe16 offset => Glances octets place offset 2 outcome next
  | .fields flags table =>
    ∃ found fault, outcome = .fields found fault ∧
      (InWord table → Gathers octets place (table.filter (flags.testBit ·.bit)) found fault next)

/-- The course of requests: what each comes to, from a place that is not past the end to another. -/
inductive Course (octets : Bytes) : Nat → List Request → List Outcome → Nat → Prop where
  | nil {place : Nat} (inside : place ≤ octets.length) : Course octets place [] [] place
  | cons {place next last : Nat} {request : Request} {rest : List Request} {outcome : Outcome}
      {outcomes : List Outcome} (inside : place ≤ octets.length)
      (meets : request.Meets octets place outcome next)
      (onward : Course octets next rest outcomes last) :
      Course octets place (request :: rest) (outcome :: outcomes) last

/-! ### Requests to a cursor -/

/-- Whether a request stays within words. The octets that are looked at have places, since the sum
that says where they end is checked. The bits of a table are bits of a word, since a checked shift
by 64 places or more is a trap. -/
def Fits (place : Nat) : Request → Prop
  | .peek offset | .peekLe16 offset => place + offset + 2 < 2 ^ 64
  | .fields _ table => InWord table
  | _ => True

instance (place : Nat) : (request : Request) → Decidable (request.Fits place)
  | .peek offset | .peekLe16 offset => inferInstanceAs (Decidable (place + offset + 2 < 2 ^ 64))
  | .fields _ table => inferInstanceAs (Decidable (InWord table))
  | .seek _ | .skip _ | .slice _ | .le _ | .be _ | .signedLe _ | .text _ => .isTrue trivial

/-- Whether each request stays within words where the reader has come when it is made. -/
def FitAll (r : Reader) : List Request → Prop
  | [] => True
  | request :: rest => request.Fits r.position ∧ FitAll (request.run r).2 rest

instance (r : Reader) : (requests : List Request) → Decidable (FitAll r requests)
  | [] => .isTrue trivial
  | request :: rest =>
    have := instDecidableFitAll (request.run r).2 rest
    inferInstanceAs (Decidable (request.Fits r.position ∧ FitAll (request.run r).2 rest))

end Request
end Reader

namespace Cursor

open Reader (Outcome FlagField)

/-- The cursor at another place. -/
def goTo (c : Cursor) (place : Nat) : Cursor := { c with place }

/-- Reads so many octets. What fails leaves the cursor where it was. -/
def take (c : Cursor) (count : Nat) : Guarded (Except ProtocolFault Bytes × Cursor) := do
  let left ← c.remaining
  if left < count then pure (.error (.truncated count left), c)
  else
    let stop ← word (c.place + count)
    let field ← slice c.octets c.place stop
    pure (.ok field, c.goTo stop)

/-- Reads so many octets and makes something of them. -/
def fetch (c : Cursor) (count : Nat) (make : Bytes → Guarded Outcome) :
    Guarded (Outcome × Cursor) := do
  match ← c.take count with
  | (.ok field, after) =>
    let outcome ← make field
    pure (outcome, after)
  | (.error fault, after) => pure (.failed fault, after)

/-- Makes something of a look ahead. -/
def glance {α : Type} (c : Cursor) (make : α → Outcome) (look : Scan α) :
    Guarded (Outcome × Cursor) := do
  match ← look c with
  | .ok (a, _) => pure (make a, c)
  | .error fault => pure (.failed fault, c)

/-- Reads the fields of a table whose bits are set, up to one that does not fit. -/
def fields (flags : Nat) :
    List FlagField → Cursor → Guarded (List (FlagField × Bytes) × Option ProtocolFault × Cursor)
  | [], c => pure ([], none, c)
  | field :: table, c => do
    if ← isSet flags field.bit then
      match ← c.take field.width with
      | (.ok octets, after) =>
        let (found, fault, last) ← fields flags table after
        pure ((field, octets) :: found, fault, last)
      | (.error fault, after) => pure ([], some fault, after)
    else fields flags table c

end Cursor

namespace Reader.Request

/-- Does what a cursor is asked for. -/
def turn (c : Cursor) : Request → Guarded (Outcome × Cursor)
  | .seek position =>
    if c.octets.length < position then pure (.failed (.truncated position c.octets.length), c)
    else pure (.done, c.goTo position)
  | .skip count => c.fetch count fun _ => pure .done
  | .slice count => c.fetch count fun field => pure (.octets field)
  | .le width => c.fetch width fun field => do
    let n ← Scan.number width field
    pure (.number n)
  | .be width => c.fetch width fun field => do
    let digits ← Guarded.slice field 0 width
    pure (.number (Bytes.be digits))
  | .signedLe width => c.fetch width fun field => do
    let n ← Scan.number width field
    pure (.integer (Bytes.signed (8 * width) n))
  | .text width => c.fetch width fun field => pure (.text (paddedText field))
  | .peek offset => c.glance (fun octet => .number octet.toNat) (Scan.peek offset)
  | .peekLe16 offset => c.glance .number (Scan.peekLe16 offset)
  | .fields flags table => do
    let (found, fault, after) ← c.fields flags table
    pure (.fields found fault, after)

/-- Does one request after the other. -/
def turnAll (c : Cursor) : List Request → Guarded (List Outcome × Cursor)
  | [] => pure ([], c)
  | request :: rest => do
    let (outcome, after) ← request.turn c
    let (outcomes, last) ← turnAll after rest
    pure (outcome :: outcomes, last)

end Reader.Request

/-! ### One request -/

namespace Cursor

open Reader (Outcome FlagField Request)

variable {c : Cursor}

theorem position_reader (inside : c.place ≤ c.octets.length) : c.reader.position = c.place := by
  simp [reader, Reader.position, inside]

theorem data_reader (c : Cursor) : c.reader.data = c.octets := by
  simp [reader, Reader.data, List.reverseAux_eq]

theorem take_reader (inside : c.place ≤ c.octets.length) (count : Nat) :
    c.reader.take count =
      if c.place + count ≤ c.octets.length then
        .ok ((c.octets.drop c.place).take count, (c.goTo (c.place + count)).reader)
      else .error (.truncated count (c.octets.length - c.place)) := by
  have left : c.reader.remaining = c.octets.length - c.place := c.length_rest
  by_cases enough : c.place + count ≤ c.octets.length
  · rw [if_pos enough, Reader.take_of_le (by omega), ← c.reader_moved]
    rfl
  · rw [if_neg enough, Reader.take_of_lt (by omega), left]

/-- The cursor's own read agrees with the reader's. -/
theorem take_eq (sound : c.Sound) (count : Nat) :
    c.take count = .ok (if c.place + count ≤ c.octets.length then
        (.ok ((c.octets.drop c.place).take count), c.goTo (c.place + count))
      else (.error (.truncated count (c.octets.length - c.place)), c)) := by
  have inside := sound.inside
  have held := sound.held
  rw [take, remaining, less_of_le inside, ok_bind]
  by_cases enough : c.place + count ≤ c.octets.length
  · rw [if_neg (by omega), if_pos enough, word_of_lt (by omega), ok_bind,
      slice_of_le (Nat.le_add_right _ _) enough, Nat.add_sub_cancel_left]
    rfl
  · rw [if_pos (by omega), if_neg enough]
    rfl

/-- What a request comes to, by a reader and by a cursor, which is at another place after it. -/
structure Steps (c : Cursor) (request : Request) (outcome : Outcome) (next : Nat) : Prop where
  inside : next ≤ c.octets.length
  run : request.run c.reader = (outcome, (c.goTo next).reader)
  meets : request.Meets c.octets c.place outcome next
  turn : c.octets.length < 2 ^ 63 → request.Fits c.place →
    request.turn c = .ok (outcome, c.goTo next)

/-- A request that is a read of so many octets, from which each side makes the same. -/
theorem exists_steps_of_fetch {α : Type} {request : Request} {count : Nat} (value : Bytes → α)
    (finish : α → Outcome) (make : Bytes → Outcome) {check : Bytes → Guarded Outcome}
    (inside : c.place ≤ c.octets.length) (run : request.run c.reader = c.reader.kept finish
      ((c.reader.take count).map fun p => (value p.1, p.2)))
    (meets : ∀ {outcome next}, Request.Fetches c.octets c.place count make outcome next →
      request.Meets c.octets c.place outcome next) (turn : request.turn c = c.fetch count check)
    (same : ∀ field, field.length = count → finish (value field) = make field)
    (calm : ∀ field, field.length = count → check field = .ok (make field)) :
    ∃ outcome next, c.Steps request outcome next := by
  have read := take_reader inside count
  by_cases enough : c.place + count ≤ c.octets.length
  · have length : ((c.octets.drop c.place).take count).length = count := by
      rw [List.length_take, List.length_drop]
      omega
    rw [if_pos enough] at read
    refine ⟨make ((c.octets.drop c.place).take count), c.place + count, enough, ?_, meets ?_,
      fun held _ => ?_⟩
    · rw [run, read, ← same _ length]
      rfl
    · rw [Request.Fetches, if_pos enough]
      exact ⟨rfl, rfl⟩
    · rw [turn, fetch, take_eq ⟨inside, held⟩, if_pos enough, ok_bind]
      dsimp only
      rw [calm _ length]
      rfl
  · rw [if_neg enough] at read
    refine ⟨.failed (.truncated count (c.octets.length - c.place)), c.place, inside, ?_, meets ?_,
      fun held _ => ?_⟩
    · rw [run, read]
      rfl
    · rw [Request.Fetches, if_neg enough]
      exact ⟨rfl, rfl⟩
    · rw [turn, fetch, take_eq ⟨inside, held⟩, if_neg enough, ok_bind]
      rfl

/-- A look that does not trap makes of what it sees what the reader does, and the cursor stays. -/
theorem glance_eq {α : Type} {look : Scan α} {seen : Except ProtocolFault α}
    (alike : Scan.Alike (look c) (seen.map (·, c.reader))) (make : α → Outcome) :
    c.glance make look = .ok ((c.reader.kept make (seen.map (·, c.reader))).1, c) := by
  cases seen with
  | error fault =>
    rw [glance, alike.eq_of_error]
    rfl
  | ok a =>
    obtain ⟨next, -, -, looked⟩ := alike.exists_of_ok
    rw [glance, looked]
    rfl

/-- A look ahead leaves a reader where it is. -/
theorem run_of_look {α : Type} (c : Cursor) (make : α → Outcome) (seen : Except ProtocolFault α) :
    c.reader.kept make (seen.map (·, c.reader)) =
      ((c.reader.kept make (seen.map (·, c.reader))).1, (c.goTo c.place).reader) := by
  cases seen <;> rfl

theorem glances_peek (c : Cursor) (offset : Nat) :
    Request.Glances c.octets c.place offset 1 (c.reader.kept (fun octet => .number octet.toNat)
          ((c.reader.peek offset).map (·, c.reader))).1 c.place := by
  refine ⟨rfl, ?_⟩
  have there : c.reader.rest[offset]? = c.octets[c.place + offset]? := List.getElem?_drop
  have left : c.reader.remaining = c.octets.length - c.place := c.length_rest
  rw [Reader.peek, there, left]
  by_cases enough : c.place + offset + 1 ≤ c.octets.length
  · have ahead : c.place + offset < c.octets.length := enough
    have one : (c.octets.drop (c.place + offset)).take 1 = [c.octets[c.place + offset]] := by
      rw [List.drop_eq_getElem_cons ahead]
      rfl
    rw [if_pos enough, List.getElem?_eq_getElem ahead, one, Bytes.little, List.map_singleton,
      Nat.ofDigits_singleton]
    rfl
  · rw [if_neg enough, List.getElem?_eq_none (by omega)]
    rfl

theorem glances_peekLe16 (inside : c.place ≤ c.octets.length) (offset : Nat) :
    Request.Glances c.octets c.place offset 2
      (c.reader.kept .number ((c.reader.peekLe16 offset).map (·, c.reader))).1 c.place := by
  refine ⟨rfl, ?_⟩
  have left : c.reader.remaining = c.octets.length - c.place := c.length_rest
  by_cases enough : c.place + offset + 2 ≤ c.octets.length
  · rw [if_pos enough, Reader.peekLe16_of_le (by omega), Bytes.le_eq_little, reader, List.drop_drop]
    rfl
  · rw [if_neg enough, Reader.peekLe16_of_lt (by omega), left]
    rfl

/-- The fields of a table, by a reader and by a cursor. -/
theorem exists_gathered (flags : Nat) (table : List FlagField)
    (inside : c.place ≤ c.octets.length) :
    ∃ found fault next, c.reader.fields flags table = (found, (c.goTo next).reader, fault) ∧
      Request.Gathers c.octets c.place (table.filter (Bits.isSet flags ·.bit)) found fault next ∧
      (c.octets.length < 2 ^ 63 → Reader.InWord table →
        c.fields flags table = .ok (found, fault, c.goTo next)) := by
  induction table generalizing c with
  | nil => exact ⟨[], none, c.place, rfl, .nil inside, fun _ _ => rfl⟩
  | cons field table ih =>
    by_cases announced : Bits.isSet flags field.bit = true
    · have wanted : (field :: table).filter (Bits.isSet flags ·.bit) =
          field :: table.filter (Bits.isSet flags ·.bit) := List.filter_cons_of_pos announced
      rw [wanted]
      by_cases enough : c.place + field.width ≤ c.octets.length
      · obtain ⟨found, fault, next, read, gathers, checked⟩ :=
          ih (c := c.goTo (c.place + field.width)) enough
        refine ⟨(field, (c.octets.drop c.place).take field.width) :: found, fault, next, ?_,
          gathers.cons enough, fun held inWord => ?_⟩
        · rw [Reader.fields, Reader.fieldsOnto, if_pos announced, take_reader inside, if_pos enough]
          dsimp only
          rw [Scan.fieldsOnto_seen, ← Reader.fields, read]
          rfl
        · obtain ⟨low, others⟩ := List.forall_mem_cons.1 inWord
          rw [fields, isSet_of_lt low, ok_bind, if_pos announced, take_eq ⟨inside, held⟩,
            if_pos enough, ok_bind]
          dsimp only
          rw [checked held others]
          rfl
      · refine ⟨[], some (.truncated field.width (c.octets.length - c.place)), c.place, ?_,
          .short inside (by omega), fun held inWord => ?_⟩
        · rw [Reader.fields, Reader.fieldsOnto, if_pos announced, take_reader inside, if_neg enough]
          rfl
        · rw [fields, isSet_of_lt (inWord field List.mem_cons_self), ok_bind, if_pos announced,
            take_eq ⟨inside, held⟩, if_neg enough]
          rfl
    · have wanted : (field :: table).filter (Bits.isSet flags ·.bit) =
          table.filter (Bits.isSet flags ·.bit) := List.filter_cons_of_neg announced
      rw [wanted]
      obtain ⟨found, fault, next, read, gathers, checked⟩ := ih inside
      refine ⟨found, fault, next, ?_, gathers, fun held inWord => ?_⟩
      · rw [Reader.fields, Reader.fieldsOnto, if_neg announced]
        exact read
      · obtain ⟨low, others⟩ := List.forall_mem_cons.1 inWord
        rw [fields, isSet_of_lt low, ok_bind, if_neg announced]
        exact checked held others

theorem exists_steps (inside : c.place ≤ c.octets.length) (request : Request) :
    ∃ outcome next, c.Steps request outcome next := by
  cases request with
  | seek position =>
    by_cases within : position ≤ c.octets.length
    · refine ⟨.done, position, within, ?_, ?_, fun _ _ => ?_⟩
      · rw [Request.run, Reader.seek, c.data_reader, if_pos within]
        rfl
      · rw [Request.Meets, if_pos within]
        exact ⟨rfl, rfl⟩
      · rw [Request.turn, if_neg (by omega)]
        rfl
    · refine ⟨.failed (.truncated position c.octets.length), c.place, inside, ?_, ?_, fun _ _ => ?_⟩
      · rw [Request.run, Reader.seek, c.data_reader, if_neg within]
        rfl
      · rw [Request.Meets, if_neg within]
        exact ⟨rfl, rfl⟩
      · rw [Request.turn, if_pos (by omega)]
        rfl
  | skip count =>
    refine exists_steps_of_fetch (fun _ => ()) (fun _ => .done) (fun _ => .done) inside ?_ id rfl
      (fun _ _ => rfl) fun _ _ => rfl
    rw [Request.run, Reader.skip]
    cases c.reader.take count <;> rfl
  | slice count =>
    refine exists_steps_of_fetch id .octets .octets inside ?_ id rfl (fun _ _ => rfl) fun _ _ => rfl
    rw [Request.run]
    cases c.reader.take count <;> rfl
  | le width =>
    refine exists_steps_of_fetch Bytes.le .number (fun field => .number (Bytes.little field))
      inside rfl id rfl (fun field _ => ?_) fun field length => ?_
    · rw [Bytes.le_eq_little]
    · rw [Scan.number_of_length length, Bytes.le_eq_little]
      rfl
  | be width =>
    refine exists_steps_of_fetch Bytes.be .number (fun field => .number (Bytes.big field)) inside
      rfl id rfl (fun field _ => ?_) fun field length => ?_
    · rw [Bytes.be_eq_big]
    · subst length
      rw [slice_of_le (Nat.zero_le _) (Nat.le_refl _), Nat.sub_zero, List.drop_zero,
        List.take_length, ← Bytes.be_eq_big]
      rfl
  | signedLe width =>
    have signed (field : Bytes) (length : field.length = width) :
        Bytes.signed (8 * width) (Bytes.le field) = Bytes.twosComplement (8 * width)
            (Bytes.little field) := by
      have small := Bytes.le_lt field
      rw [length, show 256 = 2 ^ 8 from rfl, ← Nat.pow_mul] at small
      rw [Bytes.signed_eq_twosComplement small, Bytes.le_eq_little]
    refine exists_steps_of_fetch (fun field => Bytes.signed (8 * width) (Bytes.le field)) .integer
      (fun field => .integer (Bytes.twosComplement (8 * width) (Bytes.little field))) inside
        ?_ id rfl
      (fun field length => ?_) fun field length => ?_
    · rw [Request.run, Reader.signedLe, Reader.le]
      cases c.reader.take width <;> rfl
    · rw [signed field length]
    · rw [Scan.number_of_length length, ← signed field length]
      rfl
  | text width =>
    exact exists_steps_of_fetch Reader.paddedText .text
      (fun field => .text (Reader.paddedText field)) inside rfl id
      rfl (fun _ _ => rfl) fun _ _ => rfl
  | peek offset =>
    refine ⟨_, c.place, inside, run_of_look c _ _, glances_peek c offset, fun held near => ?_⟩
    exact glance_eq (Scan.alike_peek ⟨inside, held⟩ (Nat.lt_of_succ_lt near)) _
  | peekLe16 offset =>
    refine ⟨_, c.place, inside, run_of_look c _ _, glances_peekLe16 inside offset,
      fun held near => ?_⟩
    exact glance_eq (Scan.alike_peekLe16 ⟨inside, held⟩ near) _
  | fields flags table =>
    obtain ⟨found, fault, next, read, gathers, checked⟩ := exists_gathered flags table inside
    refine ⟨.fields found fault, next, gathers.inside, ?_, ⟨found, fault, rfl, fun inWord => ?_⟩,
      fun held inWord => ?_⟩
    · rw [Request.run, read]
    · rwa [inWord.filter_isSet flags] at gathers
    · rw [Request.turn, checked held inWord]
      rfl

end Cursor

/-! ### Any requests -/

open Reader (Request Outcome)

/-- Requests that are made one after the other at a cursor that is not past the end. -/
theorem Cursor.exists_course {c : Cursor} (inside : c.place ≤ c.octets.length)
    (requests : List Request) :
    ∃ outcomes last, Request.runAll c.reader requests = (outcomes, (c.goTo last).reader) ∧
      last ≤ c.octets.length ∧ Request.Course c.octets c.place requests outcomes last ∧
      (c.octets.length < 2 ^ 63 → Request.FitAll c.reader requests →
        Request.turnAll c requests = .ok (outcomes, c.goTo last)) := by
  induction requests generalizing c with
  | nil => exact ⟨[], c.place, rfl, inside, .nil inside, fun _ _ => rfl⟩
  | cons request rest ih =>
    obtain ⟨outcome, next, steps⟩ := exists_steps inside request
    obtain ⟨outcomes, last, ran, stops, course, checked⟩ := ih (c := c.goTo next) steps.inside
    refine ⟨outcome :: outcomes, last, ?_, stops, .cons inside steps.meets course,
      fun held fit => ?_⟩
    · rw [Request.runAll, steps.run]
      dsimp only
      rw [ran]
      rfl
    · obtain ⟨fits, others⟩ := fit
      rw [c.position_reader inside] at fits
      rw [steps.run] at others
      rw [Request.turnAll, steps.turn held fits, ok_bind]
      dsimp only
      rw [checked held others]
      rfl

namespace Reader

/-- Nine octets. -/
def sampleOctets : Bytes := [0x34, 0x12, 0xFF, 0xFF, 0xFF, 0x07, 0x01, 0x02, 0x41]

/-- Numbers, a look ahead, two of three fields, of which the second does not fit, and more than is
left. -/
def sampleRequests : List Request :=
  [.le 2, .signedLe 3, .peekLe16 1, .fields 5 [⟨0, 1⟩, ⟨1, 4⟩, ⟨2, 4⟩], .seek 10, .be 2, .text 2]

end Reader
end TrackerGateway
