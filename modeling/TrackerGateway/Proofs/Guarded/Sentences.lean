import TrackerGateway.Proofs.Guarded.Basic
import TrackerGateway.Sentence.Fields

/-!
# Reading the groups of a match by their number

What is left of the fields of a sentence is here the number of groups that were taken, and taking
one more than there are is a trap. `Picks` says that a reading by number comes to what a reading
of `Fields` comes to, and traps where that one runs over; readings put together from such readings
are such readings again.
-/

namespace TrackerGateway.Sentence

/-- The groups of a match, and how many of them were taken. -/
structure Groups where
  texts : List (Option String)
  index : Nat

/-- Readings of groups. -/
abbrev Pick (α : Type) := StateT Groups Guarded α

open Guarded

namespace Groups

/-- Whether there are not too many groups, and none of them is too long. -/
structure Sound (g : Groups) : Prop where
  few : g.texts.length < 2 ^ 63
  short : ∀ text, some text ∈ g.texts → text.length < 2 ^ 63

/-- What is left of the fields. -/
def fields (g : Groups) : Fields := ⟨g.texts.drop g.index, g.texts.length⟩

end Groups

namespace Pick

variable {α β : Type}

/-- Takes one group; an empty one counts as missing. -/
def next : Pick (Option String) := fun g => do
  demand (g.index < g.texts.length)
  let value ← entry g.texts g.index
  let index ← word (g.index + 1)
  pure (value.filter (! ·.isEmpty), { g with index })

/-- Takes so many groups. -/
def nexts : Nat → Pick (List (Option String))
  | 0 => pure []
  | count + 1 => do
    let field ← next
    let more ← nexts count
    pure (field :: more)

/-- What can trap but takes no group. -/
def guarded (x : Guarded α) : Pick α := fun g => do
  let a ← x
  pure (a, g)

/-- The year a number of two digits stands for. -/
def expandYear (year : Int) : Guarded Int :=
  if 0 ≤ year ∧ year ≤ 99 then
    if 70 ≤ year then ranged (.signed 32) (1900 + year) else ranged (.signed 32) (2000 + year)
  else pure year

/-- The instant of a year as sent, a month, a day and a time of day. -/
def instantOf? (year month day hour minute second : Int) : Guarded (Option Instant) := do
  let year ← expandYear year
  pure (do
    Instant.ofFields? ⟨year, ← natOf? month, ← natOf? day⟩ (← natOf? hour) (← natOf? minute)
      (← natOf? second))

/-- The instant of six numbers, day first. -/
def instant? : List (Option Int) → Guarded (Option Instant)
  | [some d, some mo, some y, some h, some mi, some s] => instantOf? y mo d h mi s
  | _ => pure none

/-- Takes the six groups of a date and a time. -/
def dateTime? : Pick (Option Instant) := do
  let groups ← nexts 6
  guarded (instant? (groups.map intOf))

/-- Takes the groups of a coordinate. -/
def coordinate? (form : CoordinateForm) : Pick (Option Float) := do
  let groups ← nexts form.size
  pure (form.value? groups)

/-- Takes an integer of 32 bits, or the default. -/
def int (default : Int) : Pick Int := do
  let group ← next
  pure ((intOf group).getD default)

/-- Takes a hexadecimal number of 32 bits, or the default. -/
def hex (default : Nat) : Pick Nat := do
  let group ← next
  pure ((hexOf group).getD default)

/-- Takes a number with a fraction, or the default. -/
def double (default : Float) : Pick Float := do
  let group ← next
  pure ((doubleOf group).getD default)

/-! ### Readings that agree -/

/-- What a reading of groups and a reading of fields come to alike. -/
inductive Agree : Guarded (α × Groups) → Except Overrun (α × Fields) → Prop where
  | overrun (kind : Overrun) : Agree (.error .assertion) (.error kind)
  | found (a : α) {g : Groups} (sound : g.Sound) : Agree (.ok (a, g)) (.ok (a, g.fields))

theorem Agree.exists_of_ok {made : Guarded (α × Groups)} {wanted : Except Overrun (α × Fields)}
    (agree : Agree made wanted) {a : α} {rest : Fields} (ok : wanted = .ok (a, rest)) :
    ∃ after, made = .ok (a, after) := by
  cases agree with
  | overrun kind => cases ok
  | found b sound =>
    obtain ⟨rfl, -⟩ := Prod.mk.inj (Except.ok.inj ok)
    exact ⟨_, rfl⟩

/-- A reading of groups that traps exactly where a reading of fields runs over, and else comes to
the same. -/
def Picks (pick : Pick α) (read : Read α) : Prop :=
  ∀ g : Groups, g.Sound → Agree (pick g) (read g.fields)

namespace Picks

theorem pure (a : α) : Picks (Pure.pure a) (Pure.pure a) := fun _ sound => .found a sound

theorem bind {first : Pick α} {read : Read α} {rest : α → Pick β} {more : α → Read β}
    (agree : Picks first read) (after : ∀ a, Picks (rest a) (more a)) :
    Picks (first >>= rest) (read >>= more) := by
  intro g sound
  have here := agree g sound
  show Agree (first g >>= fun p => rest p.1 p.2) (read g.fields >>= fun p => more p.1 p.2)
  generalize first g = made, read g.fields = wanted at here
  cases here with
  | overrun kind => exact .overrun kind
  | found a sound => exact after a _ sound

theorem map {first : Pick α} {read : Read α} (agree : Picks first read) (change : α → β) :
    Picks (do let a ← first; Pure.pure (change a)) (change <$> read) := by
  rw [map_eq_pure_bind]
  exact agree.bind fun a => pure (change a)

/-- What does not trap can come before a reading. -/
theorem guarded_bind {x : Guarded α} {a : α} {rest : α → Pick β} {read : Read β} (calm : x = .ok a)
    (after : Picks (rest a) read) : Picks (Pick.guarded x >>= rest) read := by
  subst calm
  exact after

theorem guarded {x : Guarded α} {a : α} (calm : x = .ok a) :
    Picks (Pick.guarded x) (Pure.pure a) := by
  subst calm
  exact pure a

/-- A group that was taken is not too long. -/
theorem next_bind {rest : Option String → Pick β} {more : Option String → Read β}
    (after : ∀ group, (∀ text, group = some text → text.length < 2 ^ 63) →
      Picks (rest group) (more group)) :
    Picks (Pick.next >>= rest) (Fields.next >>= more) := by
  intro g sound
  have few := sound.few
  show Agree (Pick.next g >>= fun p => rest p.1 p.2)
    (Fields.next g.fields >>= fun p => more p.1 p.2)
  rw [Pick.next, Fields.next, Groups.fields]
  by_cases left : g.index < g.texts.length
  · rw [demand_of left, entry_of_getElem? (List.getElem?_eq_getElem left),
      List.drop_eq_getElem_cons left, ok_bind, ok_bind, word_of_lt (by omega)]
    refine after _ (fun text taken => ?_) _ ⟨few, sound.short⟩
    rw [Option.filter_eq_some_iff] at taken
    exact sound.short text (taken.1 ▸ List.getElem_mem left)
  · rw [demand, if_neg left, List.drop_eq_nil_of_le (Nat.not_lt.1 left)]
    exact .overrun _

theorem next : Picks Pick.next Fields.next := by
  have last : Picks (Pick.next >>= Pure.pure) (Fields.next >>= Pure.pure) :=
    next_bind fun group _ => pure group
  rwa [bind_pure, bind_pure] at last

theorem nexts (count : Nat) : Picks (Pick.nexts count) (Fields.nexts count) := by
  induction count with
  | zero => exact pure []
  | succ count ih => exact next.bind fun field => ih.bind fun more => pure (field :: more)

end Picks

/-- A year of two digits stands for one of four. -/
theorem expandYear_eq (year : Int) : expandYear year = .ok (Sentence.expandYear year) := by
  have least : (Text.Integer.Range.signed 32).least = -2 ^ 31 := rfl
  have greatest : (Text.Integer.Range.signed 32).greatest = 2 ^ 31 - 1 := rfl
  have held (n : Int) (first : 0 ≤ n) (last : n < 10000) : ranged (.signed 32) n = .ok n := by
    apply ranged_of_holds
    rw [Text.Integer.Range.holds, least, greatest, Bool.and_eq_true, decide_eq_true_eq,
      decide_eq_true_eq]
    omega
  rw [expandYear, Sentence.expandYear]
  split
  · rename_i short
    split
    · exact held _ (by omega) (by omega)
    · exact held _ (by omega) (by omega)
  · rfl

theorem instant?_eq (numbers : List (Option Int)) :
    instant? numbers = .ok (TimeOrder.dmyHms.instant? numbers) := by
  unfold instant?
  split
  · rw [instantOf?, expandYear_eq]
    rfl
  · rename_i other
    rw [TimeOrder.instant?]
    · rfl
    · nofun
    · nofun
    · exact fun _ _ _ _ _ _ _ => other _ _ _ _ _ _
    · nofun

namespace Picks

theorem dateTime? : Picks Pick.dateTime? (Fields.dateTime? .dmyHms) := by
  rw [Fields.dateTime?, map_eq_pure_bind]
  exact (nexts 6).bind fun groups => guarded (instant?_eq _)

theorem coordinate? (form : CoordinateForm) :
    Picks (Pick.coordinate? form) (Fields.coordinate? form) :=
  (nexts form.size).map form.value?

theorem int (default : Int) : Picks (Pick.int default) (Fields.int default) := by
  rw [Fields.int, Fields.int?, ← comp_map]
  exact next.map _

theorem hex (default : Nat) : Picks (Pick.hex default) (Fields.hex default) :=
  next.map fun group => (hexOf group).getD default

theorem double (default : Float) : Picks (Pick.double default) (Fields.double default) := by
  rw [Fields.double, Fields.double?, ← comp_map]
  exact next.map _

end Picks

end Pick
end TrackerGateway.Sentence
