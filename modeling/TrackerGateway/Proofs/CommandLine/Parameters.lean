import TrackerGateway.Command
import TrackerGateway.CommandLine.Parameter
import TrackerGateway.Proofs.Text.Fronts
import TrackerGateway.Proofs.Text.Integers

/-!
# What a command is told by the parameters on the command line

A value that reads as an integer becomes that integer, and a command that asks for text gets what
the integer is printed as. So a value is passed on as it was typed, unless it is another text of
an integer than that one (`text_given`).
-/

namespace TrackerGateway

/-- The command with a parameter, in place of a former one of its name. -/
def Command.given (c : Command) (key : String) (value : Attribute) : Command :=
  { c with attributes := Table.put c.attributes key value }

theorem Command.text_of_given (c : Command) (key : String) (value : Attribute) :
    (c.given key value).text key = .ok value.toText := by
  rw [Command.text, Command.parameter?, Command.given, Table.get?_put, if_pos rfl]

namespace CommandLine.Parameter

open Text.Integer (Range Written Loose)

/-- A text of an integer of 64 bits that is not the one that the integer is printed as. -/
def Respelled (value : String) (k : Int) : Prop :=
  Written 10 value.toList k ∧ (Range.signed 64).holds k = true ∧ Loose value.toList

/-- A name and a value come apart at the first equals sign. -/
theorem ofText_append {key : String} (named : key ≠ "") (clear : '=' ∉ key.toList) (text : String) :
    ofText (key ++ "=" ++ text) = .ok (key, value text) := by
  have split : (key ++ "=" ++ text).toList = key.toList ++ '=' :: text.toList := by
    rw [String.toList_append, String.toList_append, List.append_assoc]
    rfl
  have before : ∀ c ∈ key.toList, (c != '=') = true := by
    intro c member
    rw [bne_iff_ne]
    rintro rfl
    exact clear member
  have front : key.toList.isEmpty = false := by
    rw [List.isEmpty_eq_false_iff]
    exact fun nothing => named (String.toList_inj.1 nothing)
  have stops : Text.Stops (· != '=') ('=' :: text.toList) := Text.stops_cons rfl _
  rw [ofText, split, Text.takeWhile_of_stops before stops, Text.dropWhile_of_stops before stops]
  dsimp only
  rw [if_neg (by rw [front]; exact Bool.false_ne_true), String.ofList_toList, String.ofList_toList]

/-- A value that is no integer is passed on as it is. -/
theorem toText_value_of_none {text : String}
    (no_integer : Text.Integer.decimal? (.signed 64) text = none) : (value text).toText = text := by
  rw [value, no_integer]
  dsimp only
  split
  · rename_i same
    exact same.symm
  · split
    · rename_i same
      exact same.symm
    · rfl

/-- A value is passed on as it was typed, unless it is another text of an integer of 64 bits than
the one that the integer is printed as. Then that one is passed on. -/
theorem text_given {key : String} (named : key ≠ "") (clear : '=' ∉ key.toList) (text : String) :
    ∃ read, ofText (key ++ "=" ++ text) = .ok (key, read) ∧
      ∀ c : Command,
        (∀ k, Respelled text k →
          (c.given key read).text key = .ok (toString k) ∧ toString k ≠ text) ∧
        ((¬ ∃ k, Respelled text k) → (c.given key read).text key = .ok text) := by
  refine ⟨value text, ofText_append named clear text, fun c => ?_⟩
  rw [c.text_of_given]
  constructor
  · rintro k ⟨written, inside, loose⟩
    have read := (Text.Integer.decimal?_eq_some_iff (by decide) (by decide)).2 ⟨written, inside⟩
    rw [value, read]
    refine ⟨rfl, fun same => ?_⟩
    exact written.eq_toString_iff.1 (by rw [same]) loose
  · intro no_other
    congr 1
    cases read : Text.Integer.decimal? (.signed 64) text with
    | none => exact toText_value_of_none read
    | some k =>
      obtain ⟨written, inside⟩ := (Text.Integer.decimal?_eq_some_iff (by decide) (by decide)).1 read
      have printed : text.toList = (toString k).toList :=
        written.eq_toString_iff.2 fun loose => no_other ⟨k, written, inside, loose⟩
      rw [value, read]
      exact (String.toList_inj.1 printed).symm

theorem text_given_uniqueId :
    "uniqueId" ≠ "" ∧ '=' ∉ "uniqueId".toList ∧
      (∃ read, ofText ("uniqueId" ++ "=" ++ "0861000002") = .ok ("uniqueId", read) ∧
        ∀ c : Command, (c.given "uniqueId" read).text "uniqueId" = .ok "861000002") ∧
      ∃ read, ofText ("uniqueId" ++ "=" ++ "861000002") = .ok ("uniqueId", read) ∧
        ∀ c : Command, (c.given "uniqueId" read).text "uniqueId" = .ok "861000002" := by
  have named : "uniqueId" ≠ "" := by decide
  have clear : '=' ∉ "uniqueId".toList := by decide
  refine ⟨named, clear, ?_, ?_⟩
  · obtain ⟨read, parsed, told⟩ := text_given named clear "0861000002"
    have number : Text.Integer.decimal? (.signed 64) "0861000002" = some 861000002 := rfl
    obtain ⟨written, inside⟩ := (Text.Integer.decimal?_eq_some_iff (by decide) (by decide)).1 number
    exact ⟨read, parsed, fun c => ((told c).1 861000002 ⟨written, inside, .zeros '8' _⟩).1⟩
  · obtain ⟨read, parsed, told⟩ := text_given named clear "861000002"
    refine ⟨read, parsed, fun c => (told c).2 ?_⟩
    rintro ⟨k, -, -, loose⟩
    cases loose

/-- An identifier with a zero in front is not sent as it was typed. -/
theorem not_text_given_as_typed :
    ¬ ∀ key text : String, key ≠ "" → '=' ∉ key.toList → ∀ c : Command,
      ∃ read, ofText (key ++ "=" ++ text) = .ok (key, read) ∧
        (c.given key read).text key = .ok text := by
  intro as_typed
  obtain ⟨read, parsed, told⟩ :=
    as_typed "uniqueId" "0861000002" (by decide) (by decide) ⟨.unset, .findDevice, []⟩
  rw [ofText_append (by decide) (by decide)] at parsed
  cases parsed
  rw [Command.text_of_given] at told
  have printed : (value "0861000002").toText = "861000002" := rfl
  rw [printed] at told
  exact absurd (Except.ok.inj told) (by decide)

end CommandLine.Parameter

end TrackerGateway
