import Registrar.Proofs.Client
import Registrar.Proofs.Seat

/-!
# One profile for a seat

Any number of clients try at the same time to add a profile for one seat.  The first
to open its unit of work gets it; every other finds the grant taken, whenever its
turn comes, and leaves no trace.
-/

namespace Registrar

open Program Service

/-! ## Outside the open unit -/

/-- The client who got the seat, with the new profile and the stamps of its rows. -/
structure Win where
  client : Nat
  new : NewProfile
  first : Stamp
  second : Stamp

namespace Contest

variable {c : Contest} {win : Option Win} {j k : Nat}

/-- The tables outside of units: those of the beginning, or those with the rows of
the winner. -/
def standing (c : Contest) : Option Win → Tables
  | none => c.tables
  | some w => seated c.tables w.new w.first w.second

/-- The error of a client who finds the grant taken. -/
def TooLate (c : Contest) (e : AppError) : Prop :=
  e.kind = .conflict ∧ e.root = .roleAlreadyAssigned c.userId c.kind.role (some c.scopeId)

/-- What is left of the program of client `j` while it has no unit open: everything,
the reading back if it is the winner, or the news that it is too late. -/
inductive Outside (c : Contest) (win : Option Win) (j : Nat) : Program Profile → Prop
  | start (new : NewProfile) (hnew : c.news[j]? = some new)
      (hrival : ∀ w, win = some w → w.client ≠ j) :
    Outside c win j (addProfile .background new)
  | reading {p : Program Profile} (w : Win) (hwin : win = some w) (hclient : w.client = j)
      (hreads : p.ReadsOnly .background)
      (hyields : p.Yields (c.standing win) fun found =>
        (c.standing win).profile? c.kind w.second.id = some found.toProfileRow) :
    Outside c win j p
  | telling {e : AppError} (w : Win) (hwin : win = some w) (hclient : w.client ≠ j)
      (event : Event) (he : c.TooLate e) : Outside c win j (.note event (.fail e))
  | told {e : AppError} (w : Win) (hwin : win = some w) (hclient : w.client ≠ j)
      (he : c.TooLate e) : Outside c win j (.fail e)

/-- A winner is one of the clients. -/
def Valid (c : Contest) (win : Option Win) : Prop :=
  ∀ w, win = some w → c.news[w.client]? = some w.new

/-- How client `k` leaves its unit: without a trace, or as the winner if there was
none; the others may go on as before. -/
def Leaves (c : Contest) (win : Option Win) (k : Nat) (p : Program Profile) (s : Store) :
    Prop :=
  ∃ win', c.Valid win' ∧ s = ⟨c.standing win', none⟩ ∧ c.Outside win' k p ∧
    ∀ j q, j ≠ k → c.Outside win j q → c.Outside win' j q

/-- Everything is as it should be for the contest to begin. -/
structure Fair (c : Contest) : Prop where
  vacant : c.Vacant
  candidates : ∀ new ∈ c.news, c.Candidate new

theorem Fair.candidate (hfair : c.Fair) {new : NewProfile} (hnew : c.news[j]? = some new) :
    c.Candidate new :=
  hfair.candidates new (List.mem_of_getElem? hnew)

theorem Outside.note {event : Event} {next : Program Profile} (hfair : c.Fair)
    (h : c.Outside win j (.note event next)) : c.Outside win j next := by
  generalize hp : Program.note event next = p at h
  cases h with
  | start new hnew hrival =>
    rw [addProfile_begins (hfair.candidate hnew).valid] at hp
    cases hp
  | reading w hwin hclient hreads hyields =>
    subst hp
    exact .reading w hwin hclient hreads hyields
  | telling w hwin hclient event he =>
    cases hp
    exact .told w hwin hclient he
  | told => cases hp

/-- The first unit to be opened makes its client the winner. -/
theorem untilClosed_first {new : NewProfile} {id : Uuid} (hfair : c.Fair)
    (hnew : c.news[k]? = some new) :
    (afterBegin new ⟨id, .memory 0⟩).UntilClosed (c.Leaves none k)
      ⟨c.tables, some ⟨id, c.tables⟩⟩ := by
  have hcandidate := hfair.candidate hnew
  apply untilClosed_afterBegin
  · intro first e hrefused
    rw [hcandidate.grant_passes hfair.vacant first] at hrefused
    cases hrefused
  · intro first second e _ hrefused
    rw [hcandidate.profile_passes hfair.vacant first second] at hrefused
    cases hrefused
  · intro first second _ _ event event'
    have hstored : ((seated c.tables new first second).profile? c.kind second.id).isSome := by
      unfold seated Tables.profile?
      rw [Tables.profilesOf_addProfile, List.find?_isSome]
      have hid : (new.row first.id second).id = second.id := rfl
      have hkind : (new.row first.id second).kind = c.kind := hcandidate.kind
      exact ⟨new.row first.id second, by simp [hkind], by simp [hid]⟩
    obtain ⟨row, hrow⟩ := Option.isSome_iff_exists.mp hstored
    refine ⟨some ⟨k, new, first, second⟩, ?_, rfl, ?_, ?_⟩
    · intro w hw
      cases hw
      exact hnew
    · rw [hcandidate.kind]
      refine .reading _ rfl rfl (readsOnly_profileById .background c.kind second.id) ?_
      apply (yields_profileById hrow).mono
      rintro _ ⟨found, rfl, hfound⟩
      exact ⟨found, rfl, hrow.trans (congrArg some hfound.symm)⟩
    · intro j q hj houtside
      cases houtside with
      | start other hother hrival =>
        refine .start other hother fun w hw => ?_
        cases hw
        exact hj.symm
      | reading w hwin => cases hwin
      | telling w hwin => cases hwin
      | told w hwin => cases hwin

theorem untilClosed_later {new : NewProfile} {w : Win} {id : Uuid} (hfair : c.Fair)
    (hvalid : c.Valid (some w)) (hnew : c.news[k]? = some new) (hrival : w.client ≠ k) :
    (afterBegin new ⟨id, .memory 0⟩).UntilClosed (c.Leaves (some w) k)
      ⟨c.standing (some w), some ⟨id, c.standing (some w)⟩⟩ := by
  have hrefused : ∀ first, Memory.checkGrant (c.standing (some w)) (new.grant first) =
      .error (.roleAlreadyAssigned c.userId c.kind.role (some c.scopeId)) :=
    (hfair.candidate (hvalid w rfl)).grant_refused (hfair.candidate hnew) hfair.vacant _ _
  apply untilClosed_afterBegin
  · intro first e hgrant event
    rw [hrefused first] at hgrant
    cases hgrant
    exact ⟨some w, hvalid, rfl, .telling w rfl hrival event ⟨rfl, rfl⟩, fun _ _ _ h => h⟩
  · intro first second e hgrant
    rw [hrefused first] at hgrant
    cases hgrant
  · intro first second hgrant
    rw [hrefused first] at hgrant
    cases hgrant

/-! ## Steps outside of units -/

theorem Outside.call_free {made : Call} {next : Result made.Answer → Program Profile}
    {tick : Tick} {answer : Result made.Answer} {after : Store} (hfair : c.Fair)
    (hvalid : c.Valid win) (h : c.Outside win j (.call made next))
    (hanswer : (⟨c.standing win, none⟩ : Store).answer tick made = .ended answer after) :
    (after = ⟨c.standing win, none⟩ ∧ c.Outside win j (next answer)) ∨
      (after.opened.isSome ∧ (next answer).UntilClosed (c.Leaves win j) after) := by
  generalize hp : Program.call made next = p at h
  cases h with
  | start new hnew hrival =>
    rw [addProfile_begins (hfair.candidate hnew).valid] at hp
    cases hp
    have hopened : (⟨c.standing win, none⟩ : Store).opened = none := rfl
    rcases Store.answer_begin_free hopened tick .background with ⟨hdeadline, _⟩ | hbegin
    · cases hdeadline
    · rw [hbegin] at hanswer
      cases hanswer
      refine .inr ⟨rfl, ?_⟩
      cases win with
      | none => exact untilClosed_first hfair hnew
      | some w => exact untilClosed_later hfair hvalid hnew (hrival w rfl)
  | reading w hwin hclient hreads hyields =>
    subst hp
    left
    have hread := hyields tick
    rw [hanswer] at hread
    cases made with
    | begin _ | commit _ | rollback _ => exact hreads.elim
    | ask ctx request =>
      obtain ⟨rfl, hlookup, hnext⟩ := hreads
      rw [Store.answer_ask_plain rfl rfl rfl] at hanswer
      cases hanswer
      have hsame := Store.perform_lookup ⟨c.standing win, none⟩ tick.stamp hlookup
      rw [hsame] at hread ⊢
      exact ⟨rfl, .reading w hwin hclient (hnext _) hread⟩
  | telling => cases hp
  | told => cases hp

theorem Outside.call_waits {made : Call} {next : Result made.Answer → Program Profile}
    {s : Store} {u : OpenUnit} (hfair : c.Fair) (h : c.Outside win j (.call made next))
    (hopened : s.opened = some u) (tick : Tick) : s.answer tick made = .stuck s := by
  generalize hp : Program.call made next = p at h
  cases h with
  | start new hnew hrival =>
    rw [addProfile_begins (hfair.candidate hnew).valid] at hp
    cases hp
    rcases Store.answer_begin_busy hopened tick .background with ⟨hdeadline, _⟩ | ⟨_, hbegin⟩
    · cases hdeadline
    · exact hbegin
  | reading w hwin hclient hreads hyields =>
    subst hp
    cases made with
    | begin _ | commit _ | rollback _ => exact hreads.elim
    | ask ctx request =>
      obtain ⟨rfl, _, _⟩ := hreads
      simp [Store.answer, Store.serve, Store.ask, Ctx.background, Ctx.isOver, hopened,
        World.deadlineOf]
  | telling => cases hp
  | told => cases hp

/-! ## Steps of the crowd -/

/-- What holds of the crowd between two steps.  Those outside of units are where they
should be; the client with the open unit, if there is one, is about to leave it. -/
inductive Running (c : Contest) : Crowd Profile → Prop
  | free {clients : List (Program Profile)} (win : Option Win) (hvalid : c.Valid win)
      (hlength : clients.length = c.news.length)
      (hall : ∀ j p, clients[j]? = some p → c.Outside win j p) :
    Running c ⟨⟨c.standing win, none⟩, clients⟩
  | busy {s : Store} {clients : List (Program Profile)} {p : Program Profile}
      (win : Option Win) (k : Nat) (hopened : s.opened.isSome)
      (hlength : clients.length = c.news.length) (hk : clients[k]? = some p)
      (howner : p.UntilClosed (c.Leaves win k) s)
      (hothers : ∀ j q, j ≠ k → clients[j]? = some q → c.Outside win j q) :
    Running c ⟨s, clients⟩

theorem forall_set {holds : Nat → Program Profile → Prop} {clients : List (Program Profile)}
    {i : Nat} {next : Program Profile}
    (hothers : ∀ j q, j ≠ i → clients[j]? = some q → holds j q) (hnext : holds i next) :
    ∀ j q, (clients.set i next)[j]? = some q → holds j q := by
  intro j q hq
  by_cases hj : j = i
  · subst hj
    rw [List.getElem?_set_self'] at hq
    cases hold : clients[j]? with
    | none => simp [hold] at hq
    | some p =>
      rw [hold] at hq
      cases hq
      exact hnext
  · rw [List.getElem?_set_ne (Ne.symm hj)] at hq
    exact hothers j q hj hq

theorem getElem?_set_of_some {clients : List (Program Profile)} {i : Nat}
    {p next : Program Profile} (hp : clients[i]? = some p) :
    (clients.set i next)[i]? = some next := by
  rw [List.getElem?_set_self', hp]
  rfl

theorem Running.step_free {clients : List (Program Profile)} {crowd : Crowd Profile}
    (hfair : c.Fair) (hvalid : c.Valid win) (hlength : clients.length = c.news.length)
    (hall : ∀ j p, clients[j]? = some p → c.Outside win j p)
    (hstep : Crowd.Step ⟨⟨c.standing win, none⟩, clients⟩ crowd) : c.Running crowd := by
  have hlength' : ∀ i next, (clients.set i next).length = c.news.length :=
    fun i next => List.length_set.trans hlength
  cases hstep with
  | @note _ _ i event next hclient =>
    refine .free win hvalid (hlength' _ _) ?_
    exact forall_set (fun j q _ hq => hall j q hq) ((hall i _ hclient).note hfair)
  | @call _ after _ i made next answer tick hclient hanswer =>
    rcases (hall i _ hclient).call_free hfair hvalid hanswer with
      ⟨rfl, hnext⟩ | ⟨hopened, hnext⟩
    · refine .free win hvalid (hlength' _ _) ?_
      exact forall_set (fun j q _ hq => hall j q hq) hnext
    · refine .busy win i hopened (hlength' _ _) (getElem?_set_of_some hclient) hnext ?_
      intro j q hj hq
      rw [List.getElem?_set_ne (Ne.symm hj)] at hq
      exact hall j q hq

/-- A client takes a step while one of them has its unit open: it is this one, or it
only tells what it has to tell. -/
theorem Running.step_busy {s : Store} {clients : List (Program Profile)}
    {p : Program Profile} {crowd : Crowd Profile} (hfair : c.Fair)
    (hopened : s.opened.isSome) (hlength : clients.length = c.news.length)
    (hk : clients[k]? = some p) (howner : p.UntilClosed (c.Leaves win k) s)
    (hothers : ∀ j q, j ≠ k → clients[j]? = some q → c.Outside win j q)
    (hstep : Crowd.Step ⟨s, clients⟩ crowd) : c.Running crowd := by
  have hlength' : ∀ i next, (clients.set i next).length = c.news.length :=
    fun i next => List.length_set.trans hlength
  have hothers' : ∀ next j q, j ≠ k → (clients.set k next)[j]? = some q →
      c.Outside win j q := by
    intro next j q hj hq
    rw [List.getElem?_set_ne (Ne.symm hj)] at hq
    exact hothers j q hj hq
  cases hstep with
  | @note _ _ i event next hclient =>
    by_cases hi : i = k
    · subst hi
      cases hk.symm.trans hclient
      exact .busy win i hopened (hlength' _ _) (getElem?_set_of_some hclient) howner
        (hothers' next)
    · have hrest : ∀ j q, (clients.set i next)[j]? = some q → j ≠ k → c.Outside win j q :=
        forall_set (fun j q _ hq hj => hothers j q hj hq)
          fun _ => (hothers i _ hi hclient).note hfair
      refine .busy win k hopened (hlength' _ _) ?_ howner fun j q hj hq => hrest j q hq hj
      rw [List.getElem?_set_ne hi]
      exact hk
  | @call _ after _ i made next answer tick hclient hanswer =>
    by_cases hi : i = k
    · subst hi
      cases hk.symm.trans hclient
      have htick := howner tick
      rw [hanswer] at htick
      cases hafter : after.opened with
      | some u =>
        simp only [hafter] at htick
        exact .busy win i (by simp [hafter]) (hlength' _ _) (getElem?_set_of_some hclient)
          htick (hothers' _)
      | none =>
        simp only [hafter] at htick
        obtain ⟨win', hvalid, rfl, hleft, hrest⟩ := htick
        refine .free win' hvalid (hlength' _ _) ?_
        exact forall_set (fun j q hj hq => hrest j q hj (hothers j q hj hq)) hleft
    · obtain ⟨u, hu⟩ := Option.isSome_iff_exists.mp hopened
      rw [(hothers i _ hi hclient).call_waits hfair hu tick] at hanswer
      cases hanswer

theorem Running.step {crowd crowd' : Crowd Profile} (hfair : c.Fair)
    (h : c.Running crowd) (hstep : crowd.Step crowd') : c.Running crowd' := by
  cases h with
  | free win hvalid hlength hall => exact step_free hfair hvalid hlength hall hstep
  | busy win k hopened hlength hk howner hothers =>
    exact step_busy hfair hopened hlength hk howner hothers hstep

/-! ## The end -/

/-- A client outside of units can take a step on a store without an open unit, unless
it has been told that it has won or that it is too late. -/
theorem Outside.ended {p : Program Profile} (hfair : c.Fair) (h : c.Outside win j p)
    (hnote : ∀ event next, p ≠ .note event next)
    (hcall : ∀ made next tick answer after, p = .call made next →
      (⟨c.standing win, none⟩ : Store).answer tick made ≠ .ended answer after) :
    (∃ w found, win = some w ∧ w.client = j ∧ p = .done found ∧
        (c.standing win).profile? c.kind w.second.id = some found.toProfileRow) ∨
      ∃ w e, win = some w ∧ w.client ≠ j ∧ p = .fail e ∧ c.TooLate e := by
  cases h with
  | start new hnew hrival =>
    have hopened : (⟨c.standing win, none⟩ : Store).opened = none := rfl
    rcases Store.answer_begin_free hopened default .background with ⟨hdeadline, _⟩ | hbegin
    · cases hdeadline
    · exact absurd hbegin
        (hcall _ _ _ _ _ (addProfile_begins (hfair.candidate hnew).valid))
  | reading w hwin hclient hreads hyields =>
    cases p with
    | note event next => exact absurd rfl (hnote event next)
    | call made next =>
      have hread := hyields default
      cases hanswer : (⟨c.standing win, none⟩ : Store).answer default made with
      | ended answer after => exact absurd hanswer (hcall _ _ _ _ _ rfl)
      | stuck after =>
        rw [hanswer] at hread
        obtain ⟨found, hreply, _⟩ := hread
        cases hreply
    | done found =>
      obtain ⟨found', hreply, hfound⟩ := hyields
      cases hreply
      exact .inl ⟨w, found, hwin, hclient, rfl, hfound⟩
    | fail e =>
      obtain ⟨found, hreply, _⟩ := hyields
      cases hreply
  | telling w hwin hclient event he => exact absurd rfl (hnote event _)
  | told w hwin hclient he => exact .inr ⟨w, _, hwin, hclient, rfl, he⟩

/-- The contest is over: the winner has the profile, everybody else was too late, and
only the rows of the winner have been added. -/
structure Decided (c : Contest) (w : Win) (crowd : Crowd Profile) : Prop where
  candidate : c.news[w.client]? = some w.new
  winner : ∃ found, crowd.clients[w.client]? = some (.done found) ∧
    crowd.store.tables.profile? c.kind w.second.id = some found.toProfileRow
  others : ∀ j, j < c.news.length → j ≠ w.client →
    ∃ e, crowd.clients[j]? = some (.fail e) ∧ c.TooLate e
  unlocked : crowd.store.opened = none
  rows : crowd.store.tables = seated c.tables w.new w.first w.second
  grants : crowd.store.tables.grants.length = c.tables.grants.length + 1
  profiles : (crowd.store.tables.profilesOf c.kind).length =
    (c.tables.profilesOf c.kind).length + 1

theorem decided_of_ended {clients : List (Program Profile)} (hfair : c.Fair)
    (hnews : c.news ≠ []) (hvalid : c.Valid win) (hlength : clients.length = c.news.length)
    (hall : ∀ j p, clients[j]? = some p → c.Outside win j p)
    (hend : ∀ crowd, ¬Crowd.Step ⟨⟨c.standing win, none⟩, clients⟩ crowd) :
    ∃ w, c.Decided w ⟨⟨c.standing win, none⟩, clients⟩ := by
  have hended : ∀ j p, clients[j]? = some p →
      (∃ w found, win = some w ∧ w.client = j ∧ p = .done found ∧
        (c.standing win).profile? c.kind w.second.id = some found.toProfileRow) ∨
      ∃ w e, win = some w ∧ w.client ≠ j ∧ p = .fail e ∧ c.TooLate e := by
    intro j p hp
    apply (hall j p hp).ended hfair
    · rintro event next rfl
      exact hend _ (.note hp)
    · rintro made next tick answer after rfl hanswer
      exact hend _ (.call tick hp hanswer)
  have hclient : ∀ j, j < c.news.length → ∃ p, clients[j]? = some p :=
    fun j hj => ⟨_, List.getElem?_eq_getElem (hlength ▸ hj)⟩
  -- Somebody has won, since the first client has ended.
  obtain ⟨w, rfl⟩ : ∃ w, win = some w := by
    obtain ⟨p, hp⟩ := hclient 0 (List.length_pos_iff.mpr hnews)
    rcases hended 0 p hp with ⟨w, _, hwin, _⟩ | ⟨w, _, hwin, _⟩
    · exact ⟨w, hwin⟩
    · exact ⟨w, hwin⟩
  have hcandidate := hvalid w rfl
  have hkind := (hfair.candidate hcandidate).kind
  refine ⟨w, hcandidate, ?_, ?_, rfl, rfl, ?_, ?_⟩
  · obtain ⟨p, hp⟩ := hclient w.client (List.getElem?_eq_some_iff.mp hcandidate).1
    rcases hended w.client p hp with ⟨_, found, ⟨⟩, _, rfl, hfound⟩ | ⟨_, e, ⟨⟩, hother, _⟩
    · exact ⟨found, hp, hfound⟩
    · exact absurd rfl hother
  · intro j hj hne
    obtain ⟨p, hp⟩ := hclient j hj
    rcases hended j p hp with ⟨_, found, ⟨⟩, rfl, _⟩ | ⟨_, e, ⟨⟩, _, rfl, he⟩
    · exact absurd rfl hne
    · exact ⟨e, hp, he⟩
  · simp [standing, seated, Tables.addGrant, Tables.addProfile]
  · simp only [standing, seated, Tables.profilesOf_addProfile, NewProfile.row, hkind, if_pos,
      List.length_append, List.length_singleton]
    rfl

theorem Running.decided {crowd : Crowd Profile} (hfair : c.Fair) (hnews : c.news ≠ [])
    (h : c.Running crowd) (hend : ∀ crowd', ¬crowd.Step crowd') :
    ∃ w, c.Decided w crowd := by
  cases h with
  | free win hvalid hlength hall => exact decided_of_ended hfair hnews hvalid hlength hall hend
  | @busy s clients p win k hopened hlength hk howner hothers =>
    -- The client with the open unit can always go on.
    cases p with
    | done found => exact howner.elim
    | fail e => exact howner.elim
    | note event next => exact absurd (.note hk) (hend _)
    | call made next =>
      have htick := howner default
      cases hanswer : s.answer default made with
      | ended answer after => exact absurd (.call default hk hanswer) (hend _)
      | stuck after =>
        rw [hanswer] at htick
        exact htick.elim

/-- All candidates ask for their profile at the same time. -/
def crowd (c : Contest) : Crowd Profile :=
  ⟨⟨c.tables, none⟩, c.news.map (addProfile .background)⟩

theorem running_crowd (c : Contest) : c.Running c.crowd := by
  refine .free none (fun w hw => nomatch hw) (List.length_map _) ?_
  intro j p hp
  rw [List.getElem?_map] at hp
  obtain ⟨new, hnew, rfl⟩ := Option.map_eq_some_iff.mp hp
  exact .start new hnew fun w hw => nomatch hw

end Contest

/-- Whatever the order in which any number of candidates are served, in the end
exactly one of them has the profile. -/
theorem one_candidate_wins {c : Contest} (hfair : c.Fair) (hnews : c.news ≠ []) :
    c.crowd.Inevitably fun crowd => ∃ w, c.Decided w crowd :=
  Crowd.inevitably_of_invariant c.running_crowd
    (fun _ _ hrunning hstep => hrunning.step hfair hstep)
    fun _ hrunning hend => hrunning.decided hfair hnews hend

/-! Two directors for one school, of whom only one can be. -/

def twoDirectors : Contest where
  tables :=
    { schools := [⟨.ofNat 20, .ofNat 10, "First School", ⟨0⟩⟩]
      users := [⟨.ofNat 30, "Ann", "Grey", none, .female, none, "ann@a.org", "hash", ⟨0⟩⟩] }
  kind := .director
  userId := .ofNat 30
  scopeId := .ofNat 20
  news :=
    [⟨.director, .ofNat 30, .ofNat 20, none, none, none⟩,
      ⟨.director, .ofNat 30, .ofNat 20, none, none, some "ann@a.org"⟩]

theorem one_candidate_wins_twoDirectors :
    (twoDirectors.Fair ∧ twoDirectors.news ≠ []) ∧
      twoDirectors.crowd.Inevitably fun crowd => ∃ w, twoDirectors.Decided w crowd := by
  have hvacant : twoDirectors.Vacant := ⟨rfl, rfl, fun grant hgrant => nomatch hgrant⟩
  have hcandidates : ∀ new ∈ twoDirectors.news, twoDirectors.Candidate new := by
    intro new hnew
    simp only [twoDirectors, List.mem_cons, List.not_mem_nil, or_false] at hnew
    rcases hnew with rfl | rfl
    all_goals
      refine ⟨rfl, rfl, rfl, rfl, ?_, ?_, ?_⟩
      all_goals
        intro _ h
        cases h
  have hnews : twoDirectors.news ≠ [] := List.cons_ne_nil _ _
  exact ⟨⟨⟨hvacant, hcandidates⟩, hnews⟩, one_candidate_wins ⟨hvacant, hcandidates⟩ hnews⟩

end Registrar
