import Registrar.Proofs.Course

/-!
# Many programs on one store

Any number of clients run a program each on one store in memory.  Whoever is not
waiting for the lock may be next; so a step of the crowd is a step of any one
client.  `Crowd.Inevitably` says that every interleaving comes to an end and that
all the ends are as wanted, which rules out that clients wait for each other.
-/

namespace Registrar

open Program

structure Crowd (α : Type) where
  store : Store
  clients : List (Program α)

namespace Crowd

variable {α : Type}

/-- One client reports an event, or has a call answered. -/
inductive Step : Crowd α → Crowd α → Prop
  | note {s : Store} {clients : List (Program α)} {i : Nat} {event : Event}
      {next : Program α} (hclient : clients[i]? = some (.note event next)) :
    Step ⟨s, clients⟩ ⟨s, clients.set i next⟩
  | call {s after : Store} {clients : List (Program α)} {i : Nat} {made : Call}
      {next : Result made.Answer → Program α} {answer : Result made.Answer} (tick : Tick)
      (hclient : clients[i]? = some (.call made next))
      (hanswer : s.answer tick made = .ended answer after) :
    Step ⟨s, clients⟩ ⟨after, clients.set i (next answer)⟩

/-- Whatever the order of the steps, they come to an end, and it is as wanted. -/
inductive Inevitably (wanted : Crowd α → Prop) : Crowd α → Prop
  | intro {c : Crowd α} (hend : (∀ c', ¬c.Step c') → wanted c)
      (hnext : ∀ c', c.Step c' → Inevitably wanted c') : Inevitably wanted c

end Crowd

/-! ## All interleavings come to an end -/

/-- One element of a list has become less. -/
inductive OneLess {α : Type} (r : α → α → Prop) : List α → List α → Prop
  | head {a a' : α} {l : List α} (h : r a' a) : OneLess r (a' :: l) (a :: l)
  | tail {a : α} {l l' : List α} (h : OneLess r l' l) : OneLess r (a :: l') (a :: l)

theorem acc_oneLess {α : Type} {r : α → α → Prop} (hr : WellFounded r) (l : List α) :
    Acc (OneLess r) l := by
  induction l with
  | nil => exact ⟨_, fun _ h => nomatch h⟩
  | cons a l ih =>
    -- Either the head becomes less, or the rest does while the head stays.
    induction hr.apply a generalizing l with
    | intro a _ iha =>
      induction ih with
      | intro l hl ihl =>
        refine ⟨_, fun l' h => ?_⟩
        cases h with
        | head h => exact iha _ h l ⟨_, hl⟩
        | tail h => exact ihl _ h

theorem oneLess_set {α : Type} {r : α → α → Prop} {l : List α} {i : Nat} {a a' : α}
    (ha : l[i]? = some a) (hless : r a' a) : OneLess r (l.set i a') l := by
  induction l generalizing i with
  | nil => cases ha
  | cons b l ih =>
    cases i with
    | zero =>
      cases ha
      exact .head hless
    | succ i => exact .tail (ih ha)

namespace Program

variable {α : Type}

/-- What remains of a program after its first event or call. -/
inductive Rest : Program α → Program α → Prop
  | note (event : Event) (next : Program α) : Rest next (.note event next)
  | call (made : Call) (next : Result made.Answer → Program α)
      (answer : Result made.Answer) : Rest (next answer) (.call made next)

theorem wellFounded_rest : WellFounded (Rest (α := α)) := by
  refine ⟨fun p => ?_⟩
  induction p with
  | done a => exact ⟨_, fun _ h => nomatch h⟩
  | fail e => exact ⟨_, fun _ h => nomatch h⟩
  | note event next ih =>
    refine ⟨_, fun _ h => ?_⟩
    cases h
    exact ih
  | call made next ih =>
    refine ⟨_, fun _ h => ?_⟩
    cases h
    exact ih _

end Program

namespace Crowd

variable {α : Type}

theorem Step.oneLess {c c' : Crowd α} (h : c.Step c') :
    OneLess Rest c'.clients c.clients := by
  cases h with
  | note hclient => exact oneLess_set hclient (.note _ _)
  | call tick hclient hanswer => exact oneLess_set hclient (.call _ _ _)

theorem inevitably_of_invariant {invariant wanted : Crowd α → Prop} {c : Crowd α}
    (hinit : invariant c)
    (hstep : ∀ c c', invariant c → c.Step c' → invariant c')
    (hend : ∀ c, invariant c → (∀ c', ¬c.Step c') → wanted c) : c.Inevitably wanted := by
  have hacc := acc_oneLess wellFounded_rest c.clients
  generalize hclients : c.clients = clients at hacc
  induction hacc generalizing c with
  | intro clients _ ih =>
    subst hclients
    refine .intro (hend c hinit) fun c' hc' => ?_
    exact ih _ hc'.oneLess (hstep c c' hinit hc') rfl

end Crowd

/-! ## A client in its unit of work -/

namespace Program

variable {α β : Type}

/-- The program has the open unit for itself: all its calls are answered, until
one of them closes the unit, after which the rest of the program and the store
are as said. -/
def UntilClosed (closed : Program α → Store → Prop) : Program α → Store → Prop
  | .done _, _ | .fail _, _ => False
  | .note _ next, s => next.UntilClosed closed s
  | .call c next, s => ∀ tick,
    match s.answer tick c with
    | .ended answer after =>
      match after.opened with
      | some _ => (next answer).UntilClosed closed after
      | none => closed (next answer) after
    | .stuck _ => False

/-- The program makes nothing but requests. -/
def OnlyAsks : Program α → Prop
  | .done _ | .fail _ => True
  | .note _ next => next.OnlyAsks
  | .call (.ask _ _) next => ∀ answer, (next answer).OnlyAsks
  | .call _ _ => False

/-- All the calls that a program makes are of one sort. -/
def Makes (sort : Call → Prop) : Program α → Prop
  | .done _ | .fail _ => True
  | .note _ next => next.Makes sort
  | .call c next => sort c ∧ ∀ answer, (next answer).Makes sort

variable {sort : Call → Prop}

theorem makes_bind {p : Program α} {f : α → Program β} (hp : p.Makes sort)
    (hf : ∀ a, (f a).Makes sort) : (p >>= f).Makes sort := by
  change (p.bind f).Makes sort
  induction p with
  | done a => exact hf a
  | fail e => trivial
  | note event next ih => exact ih hp
  | call c next ih => exact ⟨hp.1, fun answer => ih answer (hp.2 answer)⟩

theorem makes_annotate {p : Program α} {step : String} (hp : p.Makes sort) :
    (p.annotate step).Makes sort := by
  induction p with
  | done a => trivial
  | fail e => trivial
  | note event next ih => exact ih hp
  | call c next ih => exact ⟨hp.1, fun answer => ih answer (hp.2 answer)⟩

theorem makes_attempt {p : Program α} (hp : p.Makes sort) : p.attempt.Makes sort := by
  induction p with
  | done a => trivial
  | fail e => trivial
  | note event next ih => exact ih hp
  | call c next ih => exact ⟨hp.1, fun answer => ih answer (hp.2 answer)⟩

theorem makes_request {c : Call} (hc : sort c) : (request c).Makes sort :=
  ⟨hc, fun answer => by cases answer <;> trivial⟩

theorem makes_ofResult (r : Result α) : (ofResult r).Makes sort := by
  cases r <;> trivial

/-- Something is checked, asked for and reported. -/
theorem makes_checked {check : Result Unit} {ctx : Ctx} (r : Request)
    {event : r.Answer → Event} (hsort : sort (.ask ctx r)) :
    (do
      ofResult check
      let row ← ask ctx r
      report (event row)
      return row : Program r.Answer).Makes sort :=
  makes_bind (makes_ofResult check) fun _ => makes_bind (makes_request hsort) fun _ => trivial

theorem Makes.mono {sort' : Call → Prop} {p : Program α} (h : p.Makes sort)
    (himp : ∀ c, sort c → sort' c) : p.Makes sort' := by
  induction p with
  | done a => trivial
  | fail e => trivial
  | note event next ih => exact ih h
  | call c next ih => exact ⟨himp c h.1, fun answer => ih answer (h.2 answer)⟩

theorem Makes.onlyAsks {p : Program α} (h : p.Makes sort)
    (hasks : ∀ c, sort c → ∃ ctx request, c = .ask ctx request) : p.OnlyAsks := by
  induction p with
  | done a => trivial
  | fail e => trivial
  | note event next ih => exact ih h
  | call c next ih =>
    obtain ⟨ctx, request, rfl⟩ := hasks c h.1
    exact fun answer => ih answer (h.2 answer)

/-- Requests leave the unit open, so what follows them may close it. -/
theorem untilClosed_bind {closed : Program β → Store → Prop} {p : Program α}
    {f : α → Program β} {s : Store} (hasks : p.OnlyAsks) (hopened : s.opened.isSome)
    (hends : p.Always (fun reply => ∃ a after, reply = .ended (.ok a) after ∧
      (f a).UntilClosed closed after) s) : (p >>= f).UntilClosed closed s := by
  change (p.bind f).UntilClosed closed s
  induction p generalizing s with
  | done a =>
    obtain ⟨a', after, hreply, hclosed⟩ := hends
    cases hreply
    exact hclosed
  | fail e =>
    obtain ⟨a', after, hreply, _⟩ := hends
    cases hreply
  | note event next ih => exact ih hasks hopened hends
  | call c next ih =>
    cases c with
    | begin _ | commit _ | rollback _ => exact hasks.elim
    | ask ctx request =>
      intro tick
      have htick := hends tick
      obtain ⟨u, hu⟩ := Option.isSome_iff_exists.mp hopened
      rcases s.answer_ask tick ctx request with ⟨e, hanswer⟩ | ⟨hanswer, _⟩ | hanswer
      · rw [hanswer] at htick ⊢
        simp only [hu]
        exact ih _ (hasks _) hopened htick
      · rw [hanswer] at htick
        obtain ⟨a, after, hreply, _⟩ := htick
        cases hreply
      · rw [hanswer] at htick ⊢
        simp only [Store.perform_opened, hu]
        exact ih _ (hasks _) hopened htick

end Program

end Registrar
