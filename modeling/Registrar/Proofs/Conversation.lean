import Registrar.Proofs.Course

/-!
# Conversations with a storage

A program and its storage exchange calls for answers.  `Program.Converses` says which exchanges
a program can have and what it ends with, whatever is answered; the exchanges of a run on any
storage are of this sort (`Program.recorded_of_converses`).
-/

namespace Registrar

open Program

/-- A call and the answer it was given. -/
structure Answered where
  call : Call
  answer : Result call.Answer

namespace Program

variable {α β : Type}

/-- Given these answers, the program makes these calls and ends with the result. -/
def Converses : Program α → List Answered → Result α → Prop
  | .done a, trace, result => trace = [] ∧ result = .ok a
  | .fail e, trace, result => trace = [] ∧ result = .error e
  | .note _ next, trace, result => next.Converses trace result
  | .call c next, trace, result =>
    ∃ answer rest, trace = ⟨c, answer⟩ :: rest ∧ (next answer).Converses rest result

theorem exists_converses (p : Program α) : ∃ trace result, p.Converses trace result := by
  induction p with
  | done a => exact ⟨[], .ok a, rfl, rfl⟩
  | fail e => exact ⟨[], .error e, rfl, rfl⟩
  | note event next ih => exact ih
  | call c next ih =>
    obtain ⟨rest, result, hrest⟩ := ih (.error default)
    exact ⟨⟨c, .error default⟩ :: rest, result, .error default, rest, rfl, hrest⟩

/-! ## The combinators -/

theorem converses_bind {p : Program α} {f : α → Program β} {trace : List Answered}
    {result : Result β} :
    (p >>= f).Converses trace result ↔
      (∃ e, result = .error e ∧ p.Converses trace (.error e)) ∨
        ∃ a first rest, trace = first ++ rest ∧ p.Converses first (.ok a) ∧
          (f a).Converses rest result := by
  change (p.bind f).Converses trace result ↔ _
  induction p generalizing trace with
  | done a =>
    constructor
    · intro hrest
      exact .inr ⟨a, [], trace, rfl, ⟨rfl, rfl⟩, hrest⟩
    · rintro (⟨e, _, _, herror⟩ | ⟨a', first, rest, rfl, ⟨rfl, ha⟩, hrest⟩)
      · cases herror
      · cases ha
        exact hrest
  | fail e =>
    constructor
    · rintro ⟨rfl, rfl⟩
      exact .inl ⟨e, rfl, rfl, rfl⟩
    · rintro (⟨e', rfl, htrace, herror⟩ | ⟨a, first, rest, _, ⟨_, ha⟩, _⟩)
      · cases herror
        exact ⟨htrace, rfl⟩
      · cases ha
  | note event next ih => exact ih
  | call c next ih =>
    constructor
    · rintro ⟨answer, rest, rfl, hrest⟩
      rcases (ih answer).mp hrest with ⟨e, rfl, hfirst⟩ | ⟨a, first, later, rfl, hfirst, hlater⟩
      · exact .inl ⟨e, rfl, answer, rest, rfl, hfirst⟩
      · exact .inr ⟨a, ⟨c, answer⟩ :: first, later, rfl, ⟨answer, first, rfl, hfirst⟩, hlater⟩
    · rintro (⟨e, rfl, answer, rest, rfl, hfirst⟩ |
        ⟨a, _, later, rfl, ⟨answer, first, rfl, hfirst⟩, hlater⟩)
      · exact ⟨answer, rest, rfl, (ih answer).mpr (.inl ⟨e, rfl, hfirst⟩)⟩
      · exact ⟨answer, first ++ later, rfl,
          (ih answer).mpr (.inr ⟨a, first, later, rfl, hfirst, hlater⟩)⟩

theorem converses_request {c : Call} {trace : List Answered} {result : Result c.Answer} :
    (request c).Converses trace result ↔ trace = [⟨c, result⟩] := by
  constructor
  · rintro ⟨answer, rest, rfl, hrest⟩
    cases answer with
    | ok a =>
      obtain ⟨rfl, rfl⟩ := hrest
      rfl
    | error e =>
      obtain ⟨rfl, rfl⟩ := hrest
      rfl
  · rintro rfl
    refine ⟨result, [], rfl, ?_⟩
    cases result <;> exact ⟨rfl, rfl⟩

theorem converses_annotate {p : Program α} {step : String} {trace : List Answered}
    {result : Result α} :
    (p.annotate step).Converses trace result ↔
      ∃ outcome, result = Except.annotate step outcome ∧ p.Converses trace outcome := by
  induction p generalizing trace with
  | done a =>
    constructor
    · rintro ⟨rfl, rfl⟩
      exact ⟨.ok a, rfl, rfl, rfl⟩
    · rintro ⟨_, rfl, rfl, rfl⟩
      exact ⟨rfl, rfl⟩
  | fail e =>
    constructor
    · rintro ⟨rfl, rfl⟩
      exact ⟨.error e, rfl, rfl, rfl⟩
    · rintro ⟨_, rfl, rfl, rfl⟩
      exact ⟨rfl, rfl⟩
  | note event next ih => exact ih
  | call c next ih =>
    constructor
    · rintro ⟨answer, rest, rfl, hrest⟩
      obtain ⟨outcome, rfl, hnext⟩ := (ih answer).mp hrest
      exact ⟨outcome, rfl, answer, rest, rfl, hnext⟩
    · rintro ⟨outcome, rfl, answer, rest, rfl, hnext⟩
      exact ⟨answer, rest, rfl, (ih answer).mpr ⟨outcome, rfl, hnext⟩⟩

theorem converses_attempt {p : Program α} {trace : List Answered} {result : Result (Result α)} :
    p.attempt.Converses trace result ↔
      ∃ outcome, result = .ok outcome ∧ p.Converses trace outcome := by
  induction p generalizing trace with
  | done a =>
    constructor
    · rintro ⟨rfl, rfl⟩
      exact ⟨.ok a, rfl, rfl, rfl⟩
    · rintro ⟨_, rfl, rfl, rfl⟩
      exact ⟨rfl, rfl⟩
  | fail e =>
    constructor
    · rintro ⟨rfl, rfl⟩
      exact ⟨.error e, rfl, rfl, rfl⟩
    · rintro ⟨_, rfl, rfl, rfl⟩
      exact ⟨rfl, rfl⟩
  | note event next ih => exact ih
  | call c next ih =>
    constructor
    · rintro ⟨answer, rest, rfl, hrest⟩
      obtain ⟨outcome, rfl, hnext⟩ := (ih answer).mp hrest
      exact ⟨outcome, rfl, answer, rest, rfl, hnext⟩
    · rintro ⟨outcome, rfl, answer, rest, rfl, hnext⟩
      exact ⟨answer, rest, rfl, (ih answer).mpr ⟨outcome, rfl, hnext⟩⟩

/-! ## Runs -/

variable {σ : Type}

/-- What a run has exchanged, and the call that it waits for if it does. -/
structure Record (σ : Type) where
  state : σ
  trace : List Answered := []
  pending : Option Call := none

/-- The same storage, with a record of the exchanges. -/
def Handler.recording (h : Handler σ) : Handler (Record σ) where
  serve r c :=
    match h.serve r.state c with
    | .ended answer s => .ended answer { r with state := s, trace := r.trace ++ [⟨c, answer⟩] }
    | .stuck s => .stuck { r with state := s, pending := some c }
  note r event := { r with state := h.note r.state event }

/-- Keeping the record changes nothing. -/
theorem run_recording (h : Handler σ) (p : Program α) (r : Record σ) :
    (p.run h.recording r).mapState Record.state = p.run h r.state := by
  induction p generalizing r with
  | done a => rfl
  | fail e => rfl
  | note event next ih => exact ih _
  | call c next ih =>
    simp only [run, Handler.recording]
    cases h.serve r.state c with
    | ended answer s => exact ih answer _
    | stuck s => rfl

/-- The exchanges of a run that ends are as wanted of its result; those of a run that waits for
ever could be completed to such, whatever the last call were answered. -/
def Recorded (wanted : List Answered → Result α → Prop) : Reply (Record σ) α → Prop
  | .ended result r => wanted r.trace result
  | .stuck r => ∃ c, r.pending = some c ∧
    ∀ answer, ∃ rest result, wanted (r.trace ++ ⟨c, answer⟩ :: rest) result

theorem recorded_of_converses {h : Handler σ} {p : Program α} {r : Record σ}
    {wanted : List Answered → Result α → Prop}
    (hwanted : ∀ trace result, p.Converses trace result → wanted (r.trace ++ trace) result) :
    Recorded wanted (p.run h.recording r) := by
  induction p generalizing r with
  | done a =>
    have hnone := hwanted [] (.ok a) ⟨rfl, rfl⟩
    rw [List.append_nil] at hnone
    exact hnone
  | fail e =>
    have hnone := hwanted [] (.error e) ⟨rfl, rfl⟩
    rw [List.append_nil] at hnone
    exact hnone
  | note event next ih => exact ih hwanted
  | call c next ih =>
    simp only [run, Handler.recording]
    cases h.serve r.state c with
    | ended answer s =>
      apply ih answer
      intro rest result hrest
      have hwhole := hwanted (⟨c, answer⟩ :: rest) result ⟨answer, rest, rfl, hrest⟩
      simpa using hwhole
    | stuck s =>
      refine ⟨c, rfl, fun answer => ?_⟩
      obtain ⟨rest, result, hrest⟩ := exists_converses (next answer)
      exact ⟨rest, result, hwanted _ _ ⟨answer, rest, rfl, hrest⟩⟩

end Program

end Registrar
