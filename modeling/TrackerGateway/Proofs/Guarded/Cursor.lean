import TrackerGateway.Bytes.Reader
import TrackerGateway.Proofs.Bytes.Numbers
import TrackerGateway.Proofs.Guarded.Basic

/-!
# Reading by a place that is a number

A cursor is octets and a number that should not be past their end; nothing keeps it from that but
the reads themselves, which compare what is asked for with what is left. `Follows` says that a
read by cursor never traps and comes to what a read of a `Reader` comes to. The reads of this
module do, and so does what is put together from such reads (`Follows.bind`).
-/

namespace TrackerGateway

theorem Bytes.le_pair_lt (low high : UInt8) : Bytes.le [low, high] < 65536 :=
  (Bytes.le_lt [low, high]).trans_eq (by simp)

namespace Reader

/-- Too few octets for a look at two of them. -/
theorem peekLe16_of_lt {r : Reader} {offset : Nat} (few : r.remaining < offset + 2) :
    r.peekLe16 offset = .error (.truncated (offset + 2) r.remaining) := by
  have few : (r.rest.drop offset).length < 2 := by
    rw [List.length_drop]
    rw [remaining] at few
    omega
  unfold peekLe16
  match r.rest.drop offset, few with
  | [], _ | [_], _ => rfl

/-- What a read finds is like this. -/
def Finds {α : Type} (read : Reader → Except ProtocolFault (α × Reader)) (holds : α → Prop) :
    Prop :=
  ∀ (r : Reader) (a : α) (after : Reader), read r = .ok (a, after) → holds a

namespace Finds

variable {α β : Type}

theorem bind {first : Reader → Except ProtocolFault (α × Reader)} {finds : α → Prop}
    {holds : β → Prop} {next : α × Reader → Except ProtocolFault (β × Reader)}
    (found : Finds first finds) (rest : ∀ a, finds a → Finds (fun r => next (a, r)) holds) :
    Finds (fun r => first r >>= next) holds := by
  intro r b after read
  dsimp only at read
  cases begun : first r with
  | error fault =>
    rw [begun] at read
    cases read
  | ok p =>
    rw [begun] at read
    exact rest p.1 (found r p.1 p.2 begun) p.2 b after read

theorem skip {first : Reader → Except ProtocolFault (α × Reader)} {holds : β → Prop}
    {next : α × Reader → Except ProtocolFault (β × Reader)}
    (rest : ∀ a, Finds (fun r => next (a, r)) holds) : Finds (fun r => first r >>= next) holds :=
  have found : Finds first fun _ => True := fun _ _ _ _ => trivial
  bind found fun a _ => rest a

theorem take (count : Nat) : Finds (·.take count) (·.length = count) := by
  intro r octets after read
  dsimp only at read
  obtain few | enough := Nat.lt_or_ge r.remaining count
  · rw [Reader.take_of_lt few] at read
    cases read
  · rw [Reader.take_of_le enough] at read
    obtain ⟨rfl, -⟩ := Prod.mk.inj (Except.ok.inj read)
    exact List.length_take_of_le enough

theorem le (width : Nat) : Finds (·.le width) (· < 256 ^ width) := fun _ _ _ => Reader.lt_of_le

theorem peekLe16 (offset : Nat) : Finds (fun r => (r.peekLe16 offset).map (·, r)) (· < 65536) := by
  intro r n after read
  dsimp only [Reader.peekLe16] at read
  split at read
  · rename_i low high _ _
    cases read
    exact Bytes.le_pair_lt low high
  · cases read

end Finds
end Reader

/-- Octets and a place in them. -/
structure Cursor where
  octets : Bytes
  place : Nat

/-- Reads at a cursor; octets may be missing. -/
abbrev Scan (α : Type) := StateT Cursor (ExceptT ProtocolFault Guarded) α

open Guarded

namespace Cursor

/-- The start of octets. -/
def start (octets : Bytes) : Cursor := ⟨octets, 0⟩

/-- How many octets are left. -/
def remaining (c : Cursor) : Guarded Nat := less c.octets.length c.place

/-- Whether no octet is left. -/
def isEmpty (c : Cursor) : Guarded Bool := do
  let left ← c.remaining
  pure (left == 0)

/-- Whether the place is not past the end. -/
structure Sound (c : Cursor) : Prop where
  inside : c.place ≤ c.octets.length
  held : c.octets.length < 2 ^ 63

/-- The reader at the same place. -/
def reader (c : Cursor) : Reader := ⟨(c.octets.take c.place).reverse, c.octets.drop c.place⟩

@[simp] theorem reader_start (octets : Bytes) : (start octets).reader = .ofBytes octets := rfl

theorem sound_start {octets : Bytes} (held : octets.length < 2 ^ 63) : (start octets).Sound :=
  ⟨Nat.zero_le _, held⟩

theorem length_rest (c : Cursor) : c.reader.rest.length = c.octets.length - c.place :=
  List.length_drop

/-- The cursor moved on by so many octets. -/
def moved (c : Cursor) (count : Nat) : Cursor := { c with place := c.place + count }

@[simp] theorem moved_moved (c : Cursor) (n m : Nat) : (c.moved n).moved m = c.moved (n + m) := by
  simp [moved, Nat.add_assoc]

@[simp] theorem rest_moved (c : Cursor) (count : Nat) :
    (c.moved count).reader.rest = c.reader.rest.drop count := by
  simp [moved, reader]

theorem reader_moved (c : Cursor) (count : Nat) : (c.moved count).reader =
    ⟨(c.reader.rest.take count).reverseAux c.reader.before, c.reader.rest.drop count⟩ := by
  simp [reader, moved, List.take_add, List.reverseAux_eq]

variable {c : Cursor}

namespace Sound

theorem moved (sound : c.Sound) {count : Nat} (enough : count ≤ c.reader.rest.length) :
    (c.moved count).Sound := by
  have inside := sound.inside
  rw [c.length_rest] at enough
  exact ⟨Nat.add_le_of_le_sub' inside enough, sound.held⟩

theorem length_rest_lt (sound : c.Sound) : c.reader.rest.length < 2 ^ 63 := by
  rw [c.length_rest]
  exact Nat.lt_of_le_of_lt (Nat.sub_le _ _) sound.held

theorem remaining_eq (sound : c.Sound) : c.remaining = .ok c.reader.remaining := by
  rw [remaining, less_of_le sound.inside, Reader.remaining, length_rest]

theorem isEmpty_eq (sound : c.Sound) : c.isEmpty = .ok c.reader.isEmpty := by
  rw [isEmpty, sound.remaining_eq, ok_bind, Reader.isEmpty, Reader.remaining]
  cases c.reader.rest <;> rfl

end Sound
end Cursor

namespace Scan

variable {α β : Type}

/-- Reads so many octets. -/
def take (count : Nat) : Scan Bytes := fun c => ExceptT.mk do
  let left ← c.remaining
  if left < count then pure (.error (.truncated count left))
  else
    let stop ← word (c.place + count)
    let found ← slice c.octets c.place stop
    pure (.ok (found, { c with place := stop }))

/-- What can trap but reads nothing. -/
def guarded (x : Guarded α) : Scan α := fun c => ExceptT.mk do
  let a ← x
  pure (.ok (a, c))

/-- The number in the first octets of a field. -/
def number (width : Nat) (field : Bytes) : Guarded Nat := do
  let digits ← slice field 0 width
  pure (Bytes.le digits)

/-- Reads a number of so many octets. -/
def le (width : Nat) : Scan Nat := do
  let field ← take width
  guarded (number width field)

/-- Reads a two's complement number of so many octets. -/
def signedLe (width : Nat) : Scan Int := do
  let n ← le width
  pure (Bytes.signed (8 * width) n)

/-- Reads each field of a table whose bit is set, and makes something of it. -/
def fields (flags : Nat) (make : Reader.FlagField × Bytes → Guarded α) :
    List Reader.FlagField → Scan (List α)
  | [] => pure []
  | field :: table => do
    if ← guarded (isSet flags field.bit) then
      let octets ← take field.width
      let made ← guarded (make (field, octets))
      let more ← fields flags make table
      pure (made :: more)
    else fields flags make table

/-- Ends the reading. -/
def fail (fault : ProtocolFault) : Scan α := fun _ => ExceptT.mk (pure (.error fault))

/-- The octet so many places ahead. -/
def peek (offset : Nat) : Scan UInt8 := fun c => ExceptT.mk do
  let place ← word (c.place + offset)
  let needed ← word (offset + 1)
  let left ← c.remaining
  match c.octets[place]? with
  | some octet => pure (.ok (octet, c))
  | none => pure (.error (.truncated needed left))

/-- The number of two octets so many places ahead. -/
def peekLe16 (offset : Nat) : Scan Nat := fun c => ExceptT.mk do
  let first ← word (c.place + offset)
  let last ← word (first + 2)
  if last ≤ c.octets.length then
    let field ← slice c.octets first last
    pure (.ok (← number 2 field, c))
  else pure (.error (.truncated (← word (offset + 2)) (← c.remaining)))

/-- How many octets are left. -/
def remaining : Scan Nat := fun c => ExceptT.mk do
  let left ← c.remaining
  pure (.ok (left, c))

/-- What is read from the start of octets. -/
def run (scan : Scan α) (octets : Bytes) : Guarded (Except ProtocolFault α) := do
  let read ← (scan (.start octets)).run
  pure (read.map (·.1))

/-! ### Reads that follow a reader -/

/-- What a read by cursor and a read of a reader come to alike. -/
inductive Alike :
    Guarded (Except ProtocolFault (α × Cursor)) → Except ProtocolFault (α × Reader) → Prop where
  | short (fault : ProtocolFault) : Alike (.ok (.error fault)) (.error fault)
  | found (a : α) {c : Cursor} (sound : c.Sound) : Alike (.ok (.ok (a, c))) (.ok (a, c.reader))

/-- A read by cursor that never traps, and comes to what a read of the reader does. -/
def Follows (scan : Scan α) (read : Reader → Except ProtocolFault (α × Reader)) : Prop :=
  ∀ c : Cursor, c.Sound → Alike (scan c) (read c.reader)

/-- A read at a cursor never traps, and comes to this, wherever it ends. -/
def Yields (scan : Scan α) (c : Cursor) (read : Except ProtocolFault α) : Prop :=
  (scan c).run.map (·.map (·.1)) = .ok read

/-- What comes after reads that are alike. -/
theorem Alike.bind {made : Guarded (Except ProtocolFault (α × Cursor))}
    {read : Except ProtocolFault (α × Reader)} {k : α → Scan β}
    {l : α × Reader → Except ProtocolFault (β × Reader)} (alike : Alike made read)
    (rest : ∀ a c, c.Sound → read = .ok (a, c.reader) → Alike (k a c) (l (a, c.reader))) :
    Alike ((ExceptT.mk made >>= fun p => k p.1 p.2 : ExceptT ProtocolFault Guarded (β × Cursor)))
      (read >>= l) := by
  cases alike with
  | short fault => exact .short fault
  | found a sound => exact rest a _ sound rfl

theorem Alike.eq_of_error {made : Guarded (Except ProtocolFault (α × Cursor))}
    {fault : ProtocolFault} (alike : Alike made (.error fault)) : made = .ok (.error fault) := by
  cases alike with
  | short => rfl

theorem Alike.exists_of_ok {made : Guarded (Except ProtocolFault (α × Cursor))} {a : α} {r : Reader}
    (alike : Alike made (.ok (a, r))) :
    ∃ next : Cursor, next.Sound ∧ next.reader = r ∧ made = .ok (.ok (a, next)) := by
  cases alike with
  | found _ sound => exact ⟨_, sound, rfl, rfl⟩

/-- What a read by cursor and a read of a reader come to where something is made of what the
reader's finds. -/
inductive Matches {γ : Type} (change : γ → α) :
    Guarded (Except ProtocolFault (α × Cursor)) → Except ProtocolFault (γ × Reader) → Prop where
  | short (fault : ProtocolFault) : Matches change (.ok (.error fault)) (.error fault)
  | found (a : γ) {c : Cursor} (sound : c.Sound) :
    Matches change (.ok (.ok (change a, c))) (.ok (a, c.reader))

theorem Alike.of_map {γ : Type} {change : γ → α}
    {made : Guarded (Except ProtocolFault (α × Cursor))}
    {read : Except ProtocolFault (γ × Reader)}
    (alike : Alike made (read.map fun p => (change p.1, p.2))) : Matches change made read := by
  cases read with
  | error fault =>
    cases alike
    exact .short fault
  | ok p =>
    obtain ⟨a, r⟩ := p
    change Alike made (.ok (change a, r)) at alike
    cases alike with
    | found _ sound => exact .found a sound

theorem map_eq_bind (read : Except ProtocolFault α) (change : α → β) :
    read.map change = read >>= fun a => .ok (change a) := by
  cases read <;> rfl

theorem take_of_le {c : Cursor} (sound : c.Sound) {count : Nat}
    (enough : count ≤ c.reader.rest.length) :
    take count c = .ok (.ok (c.reader.rest.take count, c.moved count)) := by
  have inside := sound.inside
  have held := sound.held
  rw [c.length_rest] at enough
  have left : ¬ c.reader.remaining < count := by
    rw [Reader.remaining, c.length_rest]
    omega
  rw [take, sound.remaining_eq, ok_bind, if_neg left, word_of_lt (by omega), ok_bind,
    slice_of_le (Nat.le_add_right _ _) (by omega), ok_bind, Nat.add_sub_cancel_left]
  rfl

theorem bind_of_eq {f : Scan α} {k : α → Scan β} {c next : Cursor} {a : α}
    (found : f c = .ok (.ok (a, next))) : (f >>= k) c = k a next := by
  show (f c >>= fun p => k p.1 p.2 : ExceptT ProtocolFault Guarded (β × Cursor)) = k a next
  rw [found]
  rfl

theorem bind_of_short {f : Scan α} {k : α → Scan β} {c : Cursor} {fault : ProtocolFault}
    (failed : f c = .ok (.error fault)) : (f >>= k) c = .ok (.error fault) := by
  show (f c >>= fun p => k p.1 p.2 : ExceptT ProtocolFault Guarded (β × Cursor)) =
    .ok (.error fault)
  rw [failed]
  rfl

namespace Follows

theorem pure (a : α) : Follows (Pure.pure a) fun r => .ok (a, r) := fun _ sound => .found a sound

/-- What comes after a read may count on what the reader's finds. -/
theorem bind_of {f : Scan α} {g : Reader → Except ProtocolFault (α × Reader)} {k : α → Scan β}
    {l : α × Reader → Except ProtocolFault (β × Reader)} {finds : α → Prop} (first : Follows f g)
    (found : Reader.Finds g finds) (rest : ∀ a, finds a → Follows (k a) fun r => l (a, r)) :
    Follows (f >>= k) fun r => g r >>= l :=
  fun c sound => (first c sound).bind fun a _ after read => rest a (found _ a _ read) _ after

theorem bind {f : Scan α} {g : Reader → Except ProtocolFault (α × Reader)} {k : α → Scan β}
    {l : α × Reader → Except ProtocolFault (β × Reader)} (first : Follows f g)
    (rest : ∀ a, Follows (k a) fun r => l (a, r)) : Follows (f >>= k) fun r => g r >>= l :=
  have found : Reader.Finds g fun _ => True := fun _ _ _ _ => trivial
  first.bind_of found fun a _ => rest a

/-- A read that fails. -/
theorem fail (fault : ProtocolFault) : Follows (Scan.fail (α := α) fault) fun _ => .error fault :=
  fun _ _ => .short fault

/-- What does not trap can come before a read. -/
theorem guarded_bind {x : Guarded α} {a : α} {k : α → Scan β}
    {read : Reader → Except ProtocolFault (β × Reader)} (calm : x = .ok a)
    (rest : Follows (k a) read) : Follows (Scan.guarded x >>= k) read := by
  subst calm
  exact rest

theorem guarded {x : Guarded α} {a : α} (calm : x = .ok a) :
    Follows (Scan.guarded x) fun r => .ok (a, r) := by
  subst calm
  exact pure a

theorem map {f : Scan α} {g : Reader → Except ProtocolFault (α × Reader)} (first : Follows f g)
    (change : α → β) :
    Follows (do let a ← f; Pure.pure (change a)) fun r => (g r).map fun (a, r) =>
      (change a, r) := by
  simp only [map_eq_bind]
  exact first.bind fun a => pure (change a)

theorem take (count : Nat) : Follows (Scan.take count) (·.take count) := by
  intro c sound
  show Alike (Scan.take count c) (c.reader.take count)
  obtain few | enough := Nat.lt_or_ge c.reader.remaining count
  · rw [Scan.take, sound.remaining_eq, ok_bind, if_pos few, Reader.take_of_lt few]
    exact .short _
  · rw [take_of_le sound enough, Reader.take_of_le enough, ← c.reader_moved]
    exact .found _ (sound.moved enough)

end Follows

/-- What a read hands over is as long as was asked for. -/
theorem number_of_length {width : Nat} {field : Bytes} (length : field.length = width) :
    number width field = .ok (Bytes.le field) := by
  rw [number, slice_of_le (Nat.zero_le _) (Nat.le_of_eq length.symm), ok_bind, Nat.sub_zero,
    List.take_of_length_le]
  · rfl
  · exact Nat.le_of_eq length

/-- A look ahead comes to what the reader's does, as far as the place it looks at is a word. -/
theorem alike_peek {c : Cursor} (sound : c.Sound) {offset : Nat}
    (near : c.place + offset + 1 < 2 ^ 64) :
    Alike (peek offset c) ((c.reader.peek offset).map (·, c.reader)) := by
  have there : c.reader.rest[offset]? = c.octets[c.place + offset]? := List.getElem?_drop
  rw [peek, word_of_lt (by omega), ok_bind, word_of_lt (by omega), ok_bind,
    sound.remaining_eq, ok_bind, Reader.peek, there]
  cases c.octets[c.place + offset]? with
  | some octet => exact .found octet sound
  | none => exact .short _

theorem alike_peekLe16 {c : Cursor} (sound : c.Sound) {offset : Nat}
    (near : c.place + offset + 2 < 2 ^ 64) :
    Alike (peekLe16 offset c) ((c.reader.peekLe16 offset).map (·, c.reader)) := by
  have inside := sound.inside
  rw [peekLe16, word_of_lt (by omega), ok_bind, word_of_lt (by omega), ok_bind]
  by_cases enough : c.place + offset + 2 ≤ c.octets.length
  · have ahead : offset + 2 ≤ c.reader.remaining := by
      rw [Reader.remaining, c.length_rest]
      omega
    have two : ((c.reader.rest.drop offset).take 2).length = 2 := by
      rw [List.length_take, List.length_drop]
      exact Nat.min_eq_left (Nat.le_sub_of_add_le' ahead)
    have field : slice c.octets (c.place + offset) (c.place + offset + 2) =
        .ok ((c.reader.rest.drop offset).take 2) := by
      rw [slice_of_le (Nat.le_add_right _ _) enough, Nat.add_sub_cancel_left, Cursor.reader,
        List.drop_drop]
    rw [if_pos enough, field, ok_bind, number_of_length two, Reader.peekLe16_of_le ahead]
    exact .found _ sound
  · rw [if_neg enough, word_of_lt (by omega), sound.remaining_eq, Reader.peekLe16_of_lt]
    · exact .short _
    · rw [Reader.remaining, c.length_rest]
      omega

theorem guarded_ok (a : α) (c : Cursor) : guarded (.ok a) c = .ok (.ok (a, c)) := rfl

theorem le_of_le {c : Cursor} (sound : c.Sound) {width : Nat}
    (enough : width ≤ c.reader.rest.length) :
    le width c = .ok (.ok (Bytes.le (c.reader.rest.take width), c.moved width)) := by
  rw [le, bind_of_eq (take_of_le sound enough), number_of_length (List.length_take_of_le enough),
    guarded_ok]

namespace Follows

/-- After so many octets were read there are so many to use. -/
theorem take_bind {count : Nat} {k : Bytes → Scan β}
    {l : Bytes × Reader → Except ProtocolFault (β × Reader)}
    (rest : ∀ octets, octets.length = count → Follows (k octets) fun r => l (octets, r)) :
    Follows (Scan.take count >>= k) fun r => r.take count >>= l :=
  (take count).bind_of (Reader.Finds.take count) rest

theorem le (width : Nat) : Follows (Scan.le width) (·.le width) := by
  have read : (fun r : Reader => r.le width) =
      fun r => r.take width >>= fun p => .ok (Bytes.le p.1, p.2) := by
    funext r
    rw [Reader.le]
    cases r.take width <;> rfl
  rw [read]
  exact take_bind fun octets length => guarded (number_of_length length)

theorem remaining : Follows Scan.remaining fun r => .ok (r.remaining, r) := by
  intro c sound
  show Alike (Scan.remaining c) (.ok (c.reader.remaining, c.reader))
  rw [Scan.remaining, sound.remaining_eq]
  exact .found _ sound

theorem peek {offset : Nat} (near : offset < 2 ^ 63) :
    Follows (Scan.peek offset) fun r => (r.peek offset).map (·, r) := fun c sound =>
  have inside := sound.inside
  have held := sound.held
  alike_peek sound (by omega)

theorem peekLe16 {offset : Nat} (near : offset < 2 ^ 62) :
    Follows (Scan.peekLe16 offset) fun r => (r.peekLe16 offset).map (·, r) := fun c sound =>
  have inside := sound.inside
  have held := sound.held
  alike_peekLe16 sound (by omega)

/-- The number of two octets is below two to the sixteen. -/
theorem peekLe16_bind {offset : Nat} {k : Nat → Scan β}
    {l : Nat × Reader → Except ProtocolFault (β × Reader)} (near : offset < 2 ^ 62)
    (rest : ∀ n, n < 65536 → Follows (k n) fun r => l (n, r)) :
    Follows (Scan.peekLe16 offset >>= k) fun r => (r.peekLe16 offset).map (·, r) >>= l :=
  (peekLe16 near).bind_of (Reader.Finds.peekLe16 offset) rest

theorem signedLe (width : Nat) : Follows (Scan.signedLe width) (·.signedLe width) :=
  (le width).map _

end Follows

/-! ### Fields of a table -/

/-- The fields seen before play no part in what comes after them. -/
theorem fieldsOnto_seen (flags : Nat) (table : List Reader.FlagField)
    (seen : List (Reader.FlagField × Bytes)) (r : Reader) : Reader.fieldsOnto flags table seen r =
      (seen.reverse ++ (Reader.fieldsOnto flags table [] r).1,
          (Reader.fieldsOnto flags table [] r).2) := by
  induction table generalizing seen r with
  | nil => simp [Reader.fieldsOnto]
  | cons field table ih =>
    unfold Reader.fieldsOnto
    split
    · split
      · rename_i octets after _
        rw [ih ((field, octets) :: seen), ih [(field, octets)]]
        simp
      · simp
    · exact ih seen r

/-- The fields of a table, with what is made of them. -/
def fieldsOf (flags : Nat) (value : Reader.FlagField × Bytes → α) (table : List Reader.FlagField)
    (r : Reader) : Except ProtocolFault (List α × Reader) :=
  (r.allFields flags table).map fun p => (p.1.map value, p.2)

theorem fieldsOf_id (flags : Nat) (table : List Reader.FlagField) :
    fieldsOf flags id table = (·.allFields flags table) := by
  funext r
  rw [fieldsOf]
  cases r.allFields flags table <;> simp [Except.map]

theorem fieldsOf_cons (flags : Nat) (value : Reader.FlagField × Bytes → α)
    (field : Reader.FlagField) (table : List Reader.FlagField) :
    fieldsOf flags value (field :: table) =
      if Bits.isSet flags field.bit then fun r => r.take field.width >>= fun p =>
        fieldsOf flags value table p.2 >>= fun q => .ok (value (field, p.1) :: q.1, q.2)
      else fieldsOf flags value table := by
  funext r
  by_cases announced : Bits.isSet flags field.bit = true
  · rw [if_pos announced, fieldsOf, Reader.allFields, Reader.fields, Reader.fieldsOnto,
      if_pos announced]
    cases read : r.take field.width with
    | error fault => rfl
    | ok taken =>
      obtain ⟨octets, after⟩ := taken
      dsimp only
      rw [fieldsOnto_seen flags table [(field, octets)]]
      show _ = (fieldsOf flags value table after >>= _)
      rw [fieldsOf, Reader.allFields, Reader.fields]
      generalize Reader.fieldsOnto flags table [] after = rest
      obtain ⟨found, last, _ | fault⟩ := rest <;> rfl
  · rw [if_neg announced, fieldsOf, Reader.allFields, Reader.fields, Reader.fieldsOnto,
      if_neg announced]
    rfl

namespace Follows

/-- The fields of a table are read if what is made of them never traps. -/
theorem fields {flags : Nat} {make : Reader.FlagField × Bytes → Guarded α}
    {value : Reader.FlagField × Bytes → α} {table : List Reader.FlagField}
    (bits : ∀ field ∈ table, field.bit < 64)
    (makes : ∀ field ∈ table, ∀ octets, octets.length = field.width →
      make (field, octets) = .ok (value (field, octets))) :
    Follows (Scan.fields flags make table) (fieldsOf flags value table) := by
  induction table with
  | nil => exact pure []
  | cons field table ih =>
    have rest := ih (fun other member => bits other (List.mem_cons_of_mem _ member))
      (fun other member => makes other (List.mem_cons_of_mem _ member))
    rw [Scan.fields, fieldsOf_cons]
    refine guarded_bind (isSet_of_lt (bits field List.mem_cons_self)) ?_
    cases Bits.isSet flags field.bit with
    | false => exact rest
    | true =>
      refine take_bind fun octets length => ?_
      refine guarded_bind (makes field List.mem_cons_self octets length) ?_
      exact rest.bind (l := fun q => .ok (value (field, octets) :: q.1, q.2)) fun more => pure _

/-- A read goes on after another of which something was made. -/
theorem bind_map {γ : Type} {f : Scan α} {g : Reader → Except ProtocolFault (γ × Reader)}
    {change : γ → α} {k : α → Scan β} {l : γ × Reader → Except ProtocolFault (β × Reader)}
    (first : Follows f fun r => (g r).map fun p => (change p.1, p.2))
    (rest : ∀ a, Follows (k (change a)) fun r => l (a, r)) :
    Follows (f >>= k) fun r => g r >>= l := by
  intro c sound
  show Alike (f c >>= fun p => k p.1 p.2 : ExceptT ProtocolFault Guarded (β × Cursor))
    (g c.reader >>= l)
  have alike := (first c sound).of_map
  generalize f c = made, g c.reader = read at alike
  cases alike with
  | short fault => exact .short fault
  | found a after => exact rest a _ after

end Follows

/-! ### Results without a place -/

theorem Alike.yields {scan : Scan α} {c : Cursor} {read : Except ProtocolFault (α × Reader)}
    (alike : Alike (scan c) read) : Yields scan c (read.map (·.1)) := by
  unfold Yields
  generalize scan c = made at alike ⊢
  cases alike with
  | short fault => rfl
  | found a after => rfl

namespace Yields

variable {c : Cursor}

theorem pure (a : α) : Yields (Pure.pure a) c (.ok a) := rfl

theorem bind {f : Scan α} {g : Reader → Except ProtocolFault (α × Reader)} {k : α → Scan β}
    {l : α × Reader → Except ProtocolFault β} (first : Follows f g) (sound : c.Sound)
    (rest : ∀ a next, next.Sound → g c.reader = .ok (a, next.reader) →
      Yields (k a) next (l (a, next.reader))) :
    Yields (f >>= k) c (g c.reader >>= l) := by
  have alike := first c sound
  show Except.map _ (f c >>= fun p => k p.1 p.2 : ExceptT ProtocolFault Guarded (β × Cursor)).run =
    .ok (g c.reader >>= l)
  generalize f c = made, g c.reader = read at alike rest
  cases alike with
  | short fault => rfl
  | found a after => exact rest a _ after rfl

/-- What is read last is all that counts. -/
theorem drop {f : Scan α} {g : Reader → Except ProtocolFault (α × Reader)} (last : Follows f g)
    (sound : c.Sound) : Yields f c (g c.reader >>= fun p => .ok p.1) := by
  rw [← map_eq_bind]
  exact (last c sound).yields

/-- A read goes on after another of which something was made. -/
theorem bind_map {γ : Type} {f : Scan α} {g : Reader → Except ProtocolFault (γ × Reader)}
    {change : γ → α} {k : α → Scan β} {l : γ × Reader → Except ProtocolFault β}
    (first : Follows f fun r => (g r).map fun p => (change p.1, p.2)) (sound : c.Sound)
    (rest : ∀ a next, Yields (k (change a)) next (l (a, next.reader))) :
    Yields (f >>= k) c (g c.reader >>= l) := by
  show Except.map _ (f c >>= fun p => k p.1 p.2 : ExceptT ProtocolFault Guarded (β × Cursor)).run =
    .ok (g c.reader >>= l)
  have alike := (first c sound).of_map
  generalize f c = made, g c.reader = read at alike
  cases alike with
  | short fault => rfl
  | found a after => exact rest a _

/-- A number that was read has no more digits than were asked for. -/
theorem le {width : Nat} {k : Nat → Scan β} {l : Nat × Reader → Except ProtocolFault β}
    (sound : c.Sound)
    (rest : ∀ n next, next.Sound → n < 256 ^ width → Yields (k n) next (l (n, next.reader))) :
    Yields (Scan.le width >>= k) c (c.reader.le width >>= l) := by
  exact bind (Follows.le width) sound fun n next after read =>
    rest n next after (Reader.lt_of_le read)

theorem guarded {x : Guarded α} {a : α} {k : α → Scan β} {read : Except ProtocolFault β}
    (calm : x = .ok a) (rest : Yields (k a) c read) : Yields (Scan.guarded x >>= k) c read := by
  subst calm
  exact rest

theorem run_eq {scan : Scan α} {octets : Bytes} {read : Except ProtocolFault α}
    (yields : Yields scan (.start octets) read) : scan.run octets = .ok read := by
  unfold Yields at yields
  rw [run]
  generalize (scan (.start octets)).run = made at yields
  cases made with
  | error trap => cases yields
  | ok found => exact yields

end Yields

end Scan
end TrackerGateway
