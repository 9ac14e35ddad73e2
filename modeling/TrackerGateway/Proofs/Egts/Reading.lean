import TrackerGateway.Egts.Record
import TrackerGateway.Proofs.Bytes.Numbers

/-!
# Reading what was written

`Reader.Reads` says that a read finds something in octets, and goes on right behind them, whatever
comes there. Reads of a few octets can be put together (`Reads.bind`), and reads that follow one
another to the end find one thing in the octets of each (`Exhausts.readAll_flatMap`). So records
and sub-records that were written are read back, as far as their lengths fit in the two octets
they have.
-/

namespace TrackerGateway

namespace Reader

/-- Whether a read finds `a` in the octets ahead, if they are these, and stops behind them. -/
def Reads {α : Type} (read : Reader → Except ProtocolFault (α × Reader)) (octets : Bytes) (a : α) :
    Prop :=
  ∀ before rest, read ⟨before, octets ++ rest⟩ = .ok (a, ⟨octets.reverseAux before, rest⟩)

namespace Reads

variable {α β : Type}

theorem bind {first : Reader → Except ProtocolFault (α × Reader)}
    {next : α × Reader → Except ProtocolFault (β × Reader)} {octets more : Bytes} {a : α} {b : β}
    (found : Reads first octets a) (rest : Reads (fun r => next (a, r)) more b) :
    Reads (fun r => first r >>= next) (octets ++ more) b := by
  intro before after
  simp only [List.append_assoc, found before (more ++ after)]
  refine (rest _ after).trans ?_
  rw [List.reverseAux_eq, List.reverseAux_eq, List.reverseAux_eq, List.reverse_append,
    List.append_assoc]

/-- The last of some reads, and what is made of them. -/
theorem last {first : Reader → Except ProtocolFault (α × Reader)} {octets : Bytes} {a : α}
    (make : α → β) (found : Reads first octets a) :
    Reads (fun r => first r >>= fun p => .ok (make p.1, p.2)) octets (make a) := by
  intro before after
  simp only [found before after]
  rfl

theorem take {octets : Bytes} {count : Nat} (exact : octets.length = count) :
    Reads (·.take count) octets octets := by
  intro before rest
  have enough : count ≤ (Reader.mk before (octets ++ rest)).remaining := by
    rw [remaining, List.length_append, exact]
    exact Nat.le_add_right ..
  dsimp only
  rw [take_of_le enough, ← exact]
  simp only [List.take_left, List.drop_left]

theorem le {width n : Nat} (small : n < 256 ^ width) :
    Reads (·.le width) (Bytes.ofLe width n) n := by
  intro before rest
  have taken := take (Bytes.length_ofLe width n) before rest
  dsimp only at taken
  dsimp only [Reader.le]
  rw [taken, Except.map, Bytes.le_ofLe, Nat.mod_eq_of_lt small]

/-- Without flags there are no fields. -/
theorem allFields_zero (table : List FlagField) : Reads (·.allFields 0 table) [] [] := by
  intro before rest
  have none (table : List FlagField) (r : Reader) : fieldsOnto 0 table [] r = ([], r, none) := by
    induction table with
    | nil => rfl
    | cons field table ih => simp [fieldsOnto, Bits.isSet, ih]
  dsimp only [allFields, fields]
  rw [none]
  rfl

end Reads

/-- Whether `readAll` takes off one thing after the other with `next` until no octet is left. -/
structure Exhausts {α : Type} (next : Reader → Except ProtocolFault (α × Reader))
    (readAll : Reader → List α × Option ProtocolFault) : Prop where
  ends : ∀ {r}, r.isEmpty = true → readAll r = ([], none)
  goes : ∀ {r a after}, r.isEmpty = false → next r = .ok (a, after) →
    readAll r = (a :: (readAll after).1, (readAll after).2)

theorem Exhausts.readAll_flatMap {α γ : Type} {next : Reader → Except ProtocolFault (α × Reader)}
    {readAll : Reader → List α × Option ProtocolFault} (exhausts : Exhausts next readAll)
    {octets : γ → Bytes} {found : γ → α} {items : List γ}
    (reads : ∀ item ∈ items, octets item ≠ [] ∧ Reads next (octets item) (found item))
    (before : Bytes) : readAll ⟨before, items.flatMap octets⟩ = (items.map found, none) := by
  induction items generalizing before with
  | nil => exact exhausts.ends rfl
  | cons item items ih =>
    rw [List.forall_mem_cons] at reads
    obtain ⟨⟨some, first⟩, others⟩ := reads
    have more : (Reader.mk before (octets item ++ items.flatMap octets)).isEmpty = false := by
      simpa [isEmpty] using fun none => absurd none some
    rw [List.flatMap_cons, exhausts.goes more (first before _), ih others, List.map_cons]

end Reader

namespace Egts

open Reader (Reads Exhausts)

namespace SubRecord

variable {r after : Reader} {sub : SubRecord} {fault : ProtocolFault}

theorem readAll_of_isEmpty (empty : r.isEmpty = true) : readAll r = ([], none) := by
  rw [readAll, if_pos empty]

theorem readAll_of_next (more : r.isEmpty = false) (read : next r = .ok (sub, after)) :
    readAll r = (sub :: (readAll after).1, (readAll after).2) := by
  rw [readAll, if_neg (Bool.eq_false_iff.1 more)]
  split <;> rename_i found <;> rw [read] at found <;> cases found
  rfl

theorem readAll_of_fault (more : r.isEmpty = false) (failed : next r = .error fault) :
    readAll r = ([], some fault) := by
  rw [readAll, if_neg (Bool.eq_false_iff.1 more)]
  split <;> rename_i found <;> rw [failed] at found <;> cases found
  rfl

theorem exhausts_next : Exhausts next readAll := ⟨readAll_of_isEmpty, readAll_of_next⟩

theorem build_ne_nil (kind : Nat) (data : Bytes) : build kind data ≠ [] := by
  simp [build, Bytes.ofLe]

theorem length_build (kind : Nat) (data : Bytes) : (build kind data).length = 3 + data.length := by
  simp only [build, List.length_append, Bytes.length_ofLe]

/-- A sub-record that was written is found again, if two octets can say how long its data are. -/
theorem reads_build {kind : Nat} {data : Bytes} (octet : kind < 256) (small : data.length < 65536) :
    Reads next (build kind data) ⟨kind, data⟩ := by
  rw [build, List.append_assoc]
  refine (Reads.le octet).bind ?_
  refine (Reads.le small).bind ?_
  exact (Reads.take rfl).last (SubRecord.mk kind)

end SubRecord

namespace Record

variable {r after : Reader} {record : Record} {fault : ProtocolFault}

theorem readAll_of_isEmpty (empty : r.isEmpty = true) : readAll r = ([], none) := by
  rw [readAll, if_pos empty]

theorem readAll_of_next (more : r.isEmpty = false) (read : next r = .ok (record, after)) :
    readAll r = (record :: (readAll after).1, (readAll after).2) := by
  rw [readAll, if_neg (Bool.eq_false_iff.1 more)]
  split <;> rename_i found <;> rw [read] at found <;> cases found
  rfl

theorem readAll_of_fault (more : r.isEmpty = false) (failed : next r = .error fault) :
    readAll r = ([], some fault) := by
  rw [readAll, if_neg (Bool.eq_false_iff.1 more)]
  split <;> rename_i found <;> rw [failed] at found <;> cases found
  rfl

theorem exhausts_next : Exhausts next readAll := ⟨readAll_of_isEmpty, readAll_of_next⟩

theorem build_ne_nil (number service : Nat) (data : Bytes) : build number service data ≠ [] := by
  simp [build, Bytes.ofLe]

theorem length_build (number service : Nat) (data : Bytes) :
    (build number service data).length = 7 + data.length := by
  simp only [build, List.length_append, Bytes.length_ofLe]

/-- A record that was written is found again, about no object, event or time. -/
theorem reads_build {number service : Nat} {data : Bytes} (numbered : number < 65536)
    (octet : service < 256) (small : data.length < 65536) :
    Reads next (build number service data) ⟨number, none, none, none, service, data⟩ := by
  simp only [build, List.append_assoc]
  refine (Reads.le small).bind ?_
  refine (Reads.le numbered).bind ?_
  refine (Reads.le (Nat.zero_lt_succ _)).bind ?_
  -- There are no octets of optional fields between the flags and the service.
  refine (Reads.allFields_zero optionalFields).bind ?_
  refine (Reads.le octet).bind ?_
  refine (Reads.le octet).bind ?_
  exact (Reads.take rfl).last (Record.mk number none none none service)

end Record

end Egts
end TrackerGateway
