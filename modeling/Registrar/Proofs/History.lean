import Registrar.Proofs.Answering

/-!
# Histories of the store in memory

A history lists what happened to one store, in the order in which the lock let
it happen: the calls of any number of clients as they were answered, and the
handles whose last copy went away.  A call that gave up while it was waiting did
not happen to the store.  Each occurrence leaves a mark, and from the marks alone
one reads off the *serial order*: the calls outside units and the committed units
in the order in which they obtained the lock, each unit with its calls together.
-/

namespace Registrar

/-- Something that happened to the store. -/
inductive Occurrence where
  | call (tick : Tick) (c : Call) (answer : Result c.Answer)
  | drop (h : Handle)

abbrev History := List Occurrence

/-- A request that came to the tables, with its moment and its answer. -/
structure Exchange where
  tick : Tick
  request : Request
  answer : Result request.Answer

/-! ## Marks -/

/-- What an occurrence leaves in the history: an exchange outside or inside a
unit, or the opening or the commit of a unit. -/
inductive Mark where
  | nothing
  | plain (e : Exchange)
  | inside (id : Uuid) (e : Exchange)
  | opened (id : Uuid)
  | committed (id : Uuid)

/-- A call with such an answer did not come to the tables. -/
def stopped {α : Type} : Result α → Bool
  | .ok _ => false
  | .error e => e.isStop

namespace Occurrence

/-- The mark is read off the call and its answer. -/
def mark : Occurrence → Mark
  | .call tick (.ask ctx request) answer =>
    if stopped answer then .nothing
    else
      match ctx.handle with
      | none => .plain ⟨tick, request, answer⟩
      | some h => .inside h.id ⟨tick, request, answer⟩
  | .call _ (.begin _) (.ok h) => .opened h.id
  | .call _ (.commit h) (.ok _) => .committed h.id
  | _ => .nothing

/-- A client has been given the handle. -/
def obtains (h : Handle) : Occurrence → Prop
  | .call _ (.begin _) (.ok h') => h' = h
  | _ => False

/-- The unit of the handle is committed or rolled back, or the last copy of the
handle goes away. -/
def closes (h : Handle) : Occurrence → Prop
  | .call _ (.commit h') (.ok _) => h' = h
  | .call _ (.rollback h') (.ok _) => h' = h
  | .drop h' => h' = h
  | _ => False

end Occurrence

namespace Mark

/-- The unit that makes the exchange or is committed. -/
def owner? : Mark → Option Uuid
  | .inside id _ | .committed id => some id
  | _ => none

def callOf? (id : Uuid) : Mark → Option Exchange
  | .inside owner e => if owner = id then some e else none
  | _ => none

def isCommit (id : Uuid) : Mark → Bool
  | .committed owner => owner == id
  | _ => false

/-- What is replayed in the place of a mark: a call outside units, or a whole unit
where it was opened, if it has been committed. -/
def replayed (marks : List Mark) : Mark → List Exchange
  | .plain e => [e]
  | .opened id => if marks.any (isCommit id) then marks.filterMap (callOf? id) else []
  | _ => []

/-- The exchanges in their serial order. -/
def serial (marks : List Mark) : List Exchange :=
  marks.flatMap (replayed marks)

end Mark

namespace History

def marks (past : History) : List Mark :=
  past.map Occurrence.mark

def serial (past : History) : List Exchange :=
  Mark.serial past.marks

/-- The unit of the handle has been opened, and closed since. -/
def Closed (past : History) (h : Handle) : Prop :=
  ∃ before after, past = before ++ after ∧ (∃ o ∈ before, o.obtains h) ∧
    ∃ o ∈ after, o.closes h

@[simp] theorem marks_append (past more : History) :
    (past ++ more).marks = past.marks ++ more.marks :=
  List.map_append

end History

/-! ## The course of a history -/

/-- The occurrence may come next: a call is answered as the store answers it, and
the identifier of a new unit is new. -/
def Occurrence.Next (past : History) (s : Store) (o : Occurrence) (s' : Store) : Prop :=
  (match o with
    | .call tick c answer => s.serve 0 tick c = .answered answer s'
    | .drop h => s' = s.drop h) ∧
  ∀ id, o.mark = .opened id → .opened id ∉ past.marks

/-- The history goes on with `more`, which leads from one store to another. -/
inductive History.Leads (past : History) (s : Store) : History → Store → Prop
  | nil : Leads past s [] s
  | snoc {more : History} {o : Occurrence} {mid s' : Store} (hmore : Leads past s more mid)
      (hnext : o.Next (past ++ more) mid s') : Leads past s (more ++ [o]) s'

/-! ## Replaying -/

namespace Store

/-- The exchange as a call outside units on this store. -/
def Answers (s : Store) (e : Exchange) (s' : Store) : Prop :=
  s.serve 0 e.tick (.ask .background e.request) = .answered e.answer s'

/-- The exchanges, one at a time. -/
def Replays (s : Store) : List Exchange → Store → Prop
  | [], s' => s' = s
  | e :: rest, s' => ∃ mid, s.Answers e mid ∧ mid.Replays rest s'

theorem replays_append {s s' : Store} {first second : List Exchange} :
    s.Replays (first ++ second) s' ↔ ∃ mid, s.Replays first mid ∧ mid.Replays second s' := by
  induction first generalizing s with
  | nil => simp [Replays]
  | cons e rest ih =>
    constructor
    · rintro ⟨next, hanswer, hrest⟩
      obtain ⟨mid, hfirst, hsecond⟩ := ih.mp hrest
      exact ⟨mid, ⟨next, hanswer, hfirst⟩, hsecond⟩
    · rintro ⟨mid, ⟨next, hanswer, hfirst⟩, hsecond⟩
      exact ⟨next, hanswer, ih.mpr ⟨mid, hfirst, hsecond⟩⟩

theorem Replays.snoc {s mid s' : Store} {first : List Exchange} {e : Exchange}
    (hfirst : s.Replays first mid) (hanswer : mid.Answers e s') :
    s.Replays (first ++ [e]) s' :=
  replays_append.mpr ⟨mid, hfirst, s', hanswer, rfl⟩

theorem answers_of_perform {t : Tables} {tick : Tick} {request : Request}
    {answer : Result request.Answer} {t' : Tables}
    (hserved : t.serve Memory.policy tick.stamp request = (answer, t')) :
    (⟨t, none⟩ : Store).Answers ⟨tick, request, answer⟩ ⟨t', none⟩ := by
  unfold Answers
  simp only [serve]
  rw [ask_plain rfl rfl rfl]
  simp [perform, hserved]

end Store

/-! ## What one occurrence does -/

/-- What an occurrence with this mark can do to a store. -/
inductive Mark.Moves : Mark → Store → Store → Prop
  | idle (s : Store) : Moves .nothing s s
  | undone (t : Tables) (u : OpenUnit) : Moves .nothing ⟨t, some u⟩ ⟨u.snapshot, none⟩
  | plain (t t' : Tables) (e : Exchange)
      (hanswer : (⟨t, none⟩ : Store).Answers e ⟨t', none⟩) :
    Moves (.plain e) ⟨t, none⟩ ⟨t', none⟩
  | inside (t t' : Tables) (u : OpenUnit) (e : Exchange)
      (hanswer : (⟨t, none⟩ : Store).Answers e ⟨t', none⟩) :
    Moves (.inside u.id e) ⟨t, some u⟩ ⟨t', some u⟩
  | opened (t : Tables) (id : Uuid) : Moves (.opened id) ⟨t, none⟩ ⟨t, some ⟨id, t⟩⟩
  | committed (t : Tables) (u : OpenUnit) : Moves (.committed u.id) ⟨t, some u⟩ ⟨t, none⟩

namespace Occurrence

variable {s s' : Store}

private theorem moves_ask {tick : Tick} {ctx : Ctx} {request : Request}
    {answer : Result request.Answer} (h : s.ask tick ctx request = .answered answer s') :
    (Occurrence.call tick (.ask ctx request) answer).mark.Moves s s' := by
  rcases s.ask_cases tick ctx request with
    ⟨e, hstop, hask⟩ | ⟨hask, _⟩ | ⟨hask, hhandle⟩
  · rw [hask] at h
    cases h
    simp only [mark, stopped, hstop, if_true]
    exact .idle s
  · rw [hask] at h
    cases h
  · rw [hask] at h
    cases h
    have hreached : stopped (s.perform tick.stamp request).1 = false := by
      unfold stopped
      cases hresult : (s.perform tick.stamp request).1 with
      | ok value => rfl
      | error e => exact Memory.isStop_of_serve hresult
    simp only [mark, hreached, Bool.false_eq_true, if_false]
    cases hctx : ctx.handle with
    | none =>
      rw [hctx] at hhandle
      obtain ⟨t, opened⟩ := s
      cases hhandle
      exact .plain _ _ _ (Store.answers_of_perform rfl)
    | some h =>
      rw [hctx] at hhandle
      obtain ⟨u, hunit⟩ := hhandle
      obtain ⟨_, hopened, hid⟩ := Store.unitOf_eq_ok_iff.mp hunit
      obtain ⟨t, opened⟩ := s
      cases hopened
      simp only
      rw [← hid]
      exact .inside _ _ _ _ (Store.answers_of_perform rfl)

private theorem moves_begin {tick : Tick} {ctx : Ctx} {answer : Result Handle}
    (h : s.begin 0 tick ctx = .answered answer s') :
    (Occurrence.call tick (.begin ctx) answer).mark.Moves s s' := by
  unfold Store.begin at h
  split at h
  · cases h
    exact .idle s
  · obtain ⟨t, opened⟩ := s
    cases opened with
    | some u => cases h
    | none =>
      cases h
      exact .opened t tick.stamp.id

private theorem moves_commit {tick : Tick} {h : Handle} {answer : Result Unit}
    (hserved : s.commit h = (answer, s')) :
    (Occurrence.call tick (.commit h) answer).mark.Moves s s' := by
  unfold Store.commit at hserved
  cases hunit : s.unitOf h with
  | error e =>
    rw [hunit] at hserved
    cases hserved
    exact .idle s
  | ok u =>
    rw [hunit] at hserved
    cases hserved
    obtain ⟨_, hopened, hid⟩ := Store.unitOf_eq_ok_iff.mp hunit
    obtain ⟨t, opened⟩ := s
    cases hopened
    rw [mark, ← hid]
    exact .committed t u

private theorem moves_rollback (s : Store) (h : Handle) :
    Mark.nothing.Moves s (s.rollback h).2 := by
  unfold Store.rollback
  cases hunit : s.unitOf h with
  | error e => exact .idle s
  | ok u =>
    obtain ⟨_, hopened, _⟩ := Store.unitOf_eq_ok_iff.mp hunit
    obtain ⟨t, opened⟩ := s
    cases hopened
    exact .undone t u

theorem Next.moves {past : History} {o : Occurrence} (h : o.Next past s s') :
    o.mark.Moves s s' := by
  obtain ⟨hserved, _⟩ := h
  cases o with
  | drop h =>
    cases hserved
    exact moves_rollback s h
  | call tick c answer =>
    cases c with
    | ask ctx request => exact moves_ask hserved
    | begin ctx => exact moves_begin hserved
    | commit h =>
      apply moves_commit
      cases hserved
      rfl
    | rollback h =>
      cases hserved
      exact moves_rollback s h

end Occurrence

end Registrar
