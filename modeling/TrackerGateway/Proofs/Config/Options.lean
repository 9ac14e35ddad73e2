import TrackerGateway.Config

/-!
# Options given by the name of a protocol

Names stand for a protocol in whatever case their letters are, and in the table of options two of
them may stand for one (`not_effective_of_spellings`). Then the options of the first are those of
the protocol, and no others have any effect (`effective_of_validate`).
-/

namespace TrackerGateway

namespace Protocol

theorem toAsciiLower_name (p : Protocol) : Text.toAsciiLower p.name = p.name := by
  cases p <;> decide +kernel

/-- A text is the name of a protocol if it differs from it in case only. -/
theorem ofName_eq_ok_iff {text : String} {p : Protocol} :
    ofName text = .ok p ↔ Text.toAsciiLower text = Text.toAsciiLower p.name := by
  have apart : egts.name ≠ watch.name := by decide
  rw [ofName, all, toAsciiLower_name]
  generalize Text.toAsciiLower text = lower
  by_cases first : egts.name = lower
  · subst first
    rw [List.find?_cons_of_pos (by simp [toAsciiLower_name])]
    cases p <;> simp [apart]
  rw [List.find?_cons_of_neg (by simpa [toAsciiLower_name] using first)]
  by_cases second : watch.name = lower
  · subst second
    rw [List.find?_cons_of_pos (by simp [toAsciiLower_name])]
    cases p <;> simp [apart.symm]
  rw [List.find?_cons_of_neg (by simpa [toAsciiLower_name] using second)]
  cases p
  · simpa using Ne.symm first
  · simpa using Ne.symm second

end Protocol

namespace Config

/-! ### The options in effect -/

variable {c : Config} {p : Protocol}

theorem validate_eq_ok_iff : c.validate = .ok () ↔ c.fault? = none := by
  unfold validate
  cases c.fault? <;> simp

theorem unknownProtocol?_of_validate (valid : c.validate = .ok ()) : c.unknownProtocol? = none := by
  have faultless := validate_eq_ok_iff.1 valid
  unfold fault? at faultless
  cases unknown : c.unknownProtocol? with
  | none => rfl
  | some name =>
    rw [unknown] at faultless
    cases faultless

theorem exists_protocol_of_validate (valid : c.validate = .ok ()) {entry : String × ProtocolOptions}
    (member : entry ∈ c.protocols) : ∃ p, Protocol.ofName entry.1 = .ok p := by
  have known := List.find?_eq_none.1 (unknownProtocol?_of_validate valid) entry.1
    (List.mem_map_of_mem member)
  cases named : Protocol.ofName entry.1 with
  | ok p => exact ⟨p, rfl⟩
  | error fault => simp [named, Except.isOk, Except.toBool] at known

/-- Entries of other protocols do not count. -/
theorem optionsFor_append {front back : List (String × ProtocolOptions)}
    (other : ∀ entry ∈ front, Protocol.ofName entry.1 ≠ .ok p) :
    optionsFor (front ++ back) p = optionsFor back p := by
  have passed : front.find? (fun entry => Text.toAsciiLower entry.1 == Text.toAsciiLower p.name) =
      none := by
    refine List.find?_eq_none.2 fun entry member => ?_
    rw [beq_iff_eq, ← Protocol.ofName_eq_ok_iff]
    exact other entry member
  rw [optionsFor, List.find?_append, passed]
  rfl

/-- An entry of the protocol settles its options. -/
theorem optionsFor_cons {name : String} (named : Protocol.ofName name = .ok p)
    (options : ProtocolOptions) (back : List (String × ProtocolOptions)) :
    optionsFor ((name, options) :: back) p = options := by
  rw [optionsFor, List.find?_cons_of_pos]
  exact beq_iff_eq.2 (Protocol.ofName_eq_ok_iff.1 named)

/-- In valid settings every entry names a protocol, and has its options in effect if it is the
first that names this one. A protocol that no entry names has the default options. -/
theorem effective_of_validate (valid : c.validate = .ok ()) :
    (∀ front name options back, c.protocols = front ++ (name, options) :: back →
        ∃ p, Protocol.ofName name = .ok p ∧
          ((∀ entry ∈ front, Protocol.ofName entry.1 ≠ .ok p) → c.protocolOptions p = options)) ∧
      ∀ p, (∀ entry ∈ c.protocols, Protocol.ofName entry.1 ≠ .ok p) →
        c.protocolOptions p = .default := by
  constructor
  · intro front name options back shape
    have member : (name, options) ∈ c.protocols := by
      rw [shape]
      exact List.mem_append_right _ List.mem_cons_self
    obtain ⟨p, named⟩ := exists_protocol_of_validate valid member
    refine ⟨p, named, fun first => ?_⟩
    rw [protocolOptions, shape, optionsFor_append first, optionsFor_cons named]
  · intro p none
    rw [protocolOptions, ← List.append_nil c.protocols, optionsFor_append none]
    rfl

/-- Settings that name one protocol in two ways, with options that contradict each other. -/
def spellings : Config :=
  { default with protocols := [("EGTS", ⟨false, none⟩), ("egts", ⟨true, none⟩)] }

theorem ofName_spellings {entry : String × ProtocolOptions} (member : entry ∈ spellings.protocols) :
    Protocol.ofName entry.1 = .ok .egts := by
  rw [Protocol.ofName_eq_ok_iff, ← String.toList_inj, Text.toAsciiLower, Text.toAsciiLower,
    String.toList_map, String.toList_map]
  simp only [spellings, List.mem_cons, List.not_mem_nil, or_false] at member
  obtain rfl | rfl := member <;> rfl

theorem validate_spellings : spellings.validate = .ok () := by
  rw [validate_eq_ok_iff, fault?]
  have known : spellings.unknownProtocol? = none := by
    rw [unknownProtocol?, List.find?_eq_none]
    intro name member
    obtain ⟨entry, among, rfl⟩ := List.mem_map.1 member
    simp [ofName_spellings among, Except.isOk, Except.toBool]
  rw [known]
  rfl

theorem effective_of_spellings :
    spellings.validate = .ok () ∧ spellings.protocolOptions .egts = ⟨false, none⟩ ∧
      spellings.protocolOptions .watch = .default := by
  obtain ⟨given, missing⟩ := effective_of_validate validate_spellings
  obtain ⟨p, named, effect⟩ := given [] "EGTS" ⟨false, none⟩ [("egts", ⟨true, none⟩)] rfl
  have member : ("EGTS", ⟨false, none⟩) ∈ spellings.protocols := by simp [spellings]
  rw [ofName_spellings member] at named
  cases named
  refine ⟨validate_spellings, effect (by simp), missing .watch fun entry member other => ?_⟩
  rw [ofName_spellings member] at other
  cases other

/-- Not every entry of valid settings has an effect. -/
theorem not_effective_of_spellings :
    ¬ (spellings.validate = .ok () → ∀ entry ∈ spellings.protocols,
      ∃ p, Protocol.ofName entry.1 = .ok p ∧ spellings.protocolOptions p = entry.2) := by
  intro effective
  have inEffect (entry : String × ProtocolOptions) (member : entry ∈ spellings.protocols) :
      spellings.protocolOptions .egts = entry.2 := by
    obtain ⟨p, named, effect⟩ := effective validate_spellings entry member
    rw [ofName_spellings member] at named
    cases named
    exact effect
  have first := inEffect ("EGTS", ⟨false, none⟩) (by simp [spellings])
  have second := inEffect ("egts", ⟨true, none⟩) (by simp [spellings])
  exact absurd (first.symm.trans second) (by decide)

end Config
end TrackerGateway
