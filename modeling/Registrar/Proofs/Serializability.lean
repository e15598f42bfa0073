import Registrar.Proofs.History

/-!
# The store in memory is serializable

At every moment the marks of a history explain the store.  While no unit is open,
the tables are those of the serial order.  While one is, the tables that would be
put back are those of the serial order before it was opened, and its own calls
lead from there to the tables as they are; nothing else has happened since.
-/

namespace Registrar

namespace Mark

/-! ## The serial order of longer histories -/

/-- Every exchange and commit inside a unit belongs to a unit that was opened. -/
def Owned (marks : List Mark) : Prop :=
  ∀ m ∈ marks, ∀ id, m.owner? = some id → .opened id ∈ marks

theorem any_isCommit_eq_false {marks : List Mark} {id : Uuid}
    (hothers : ∀ m ∈ marks, m.owner? ≠ some id) : marks.any (isCommit id) = false := by
  rw [List.any_eq_false]
  intro m hm hcommit
  have hother := hothers m hm
  cases m with
  | committed owner =>
    simp only [isCommit, beq_iff_eq] at hcommit
    exact hother (congrArg some hcommit)
  | _ => cases hcommit

theorem filterMap_callOf?_eq_nil {marks : List Mark} {id : Uuid}
    (hothers : ∀ m ∈ marks, m.owner? ≠ some id) : marks.filterMap (callOf? id) = [] := by
  rw [List.filterMap_eq_nil_iff]
  intro m hm
  have hother := hothers m hm
  cases m with
  | inside owner e =>
    have hne : owner ≠ id := fun h => hother (congrArg some h)
    simp [callOf?, hne]
  | _ => rfl

/-- The serial order is not changed by what happens later in other units; it goes
on with what is replayed for the later marks. -/
theorem serial_append {prior later : List Mark}
    (hothers : ∀ id, .opened id ∈ prior → ∀ m ∈ later, m.owner? ≠ some id) :
    serial (prior ++ later) = serial prior ++ later.flatMap (replayed (prior ++ later)) := by
  have hsame : ∀ m ∈ prior, replayed (prior ++ later) m = replayed prior m := by
    intro m hm
    cases m with
    | opened id =>
      have hlater := hothers id hm
      simp only [replayed, List.any_append, List.filterMap_append,
        any_isCommit_eq_false hlater, filterMap_callOf?_eq_nil hlater, Bool.or_false,
        List.append_nil]
    | _ => rfl
  unfold serial
  rw [List.flatMap_append, List.flatMap_def, List.map_congr_left hsame, ← List.flatMap_def]

/-- The marks of a unit after its opening. -/
def Of (id : Uuid) (m : Mark) : Prop :=
  m = .nothing ∨ (∃ e, m = .inside id e) ∨ m = .committed id

theorem Of.owner? {id other : Uuid} {m : Mark} (h : m.Of id) (hother : other ≠ id) :
    m.owner? ≠ some other := by
  rcases h with rfl | ⟨e, rfl⟩ | rfl
  · simp [Mark.owner?]
  · simpa [Mark.owner?] using hother.symm
  · simpa [Mark.owner?] using hother.symm

theorem Of.replayed {id : Uuid} {m : Mark} (h : m.Of id) (marks : List Mark) :
    Mark.replayed marks m = [] := by
  rcases h with rfl | ⟨e, rfl⟩ | rfl <;> rfl

/-- The serial order when the last marks are those of one unit: its calls come in
its place if it has been committed, and not at all if it has not. -/
theorem serial_unit {prior later : List Mark} {id : Uuid} (howned : Owned prior)
    (hnew : .opened id ∉ prior) (hlater : ∀ m ∈ later, m.Of id) :
    serial (prior ++ .opened id :: later) =
      serial prior ++
        if later.any (isCommit id) then later.filterMap (callOf? id) else [] := by
  have hothers : ∀ m ∈ prior, m.owner? ≠ some id :=
    fun m hm hid => hnew (howned m hm id hid)
  have hrest : later.flatMap (replayed (prior ++ .opened id :: later)) = [] := by
    rw [List.flatMap_eq_nil_iff]
    intro m hm
    exact (hlater m hm).replayed _
  rw [serial_append, List.flatMap_cons, hrest, List.append_nil]
  · simp only [replayed, List.any_append, List.any_cons, List.filterMap_append,
      any_isCommit_eq_false hothers, filterMap_callOf?_eq_nil hothers, Bool.false_or,
      List.nil_append, isCommit]
    rfl
  · intro other hother m hm
    have hne : other ≠ id := by
      rintro rfl
      exact hnew hother
    rcases List.mem_cons.mp hm with rfl | hm
    · simp [owner?]
    · exact (hlater m hm).owner? hne

/-! ## What the marks say of the store -/

/-- The marks explain the store. -/
inductive Explain : List Mark → Store → Prop
  | free {marks : List Mark} {t : Tables} (howned : Owned marks)
      (hserial : Store.empty.Replays (serial marks) ⟨t, none⟩) :
    Explain marks ⟨t, none⟩
  | busy {prior later : List Mark} {t : Tables} {u : OpenUnit} (howned : Owned prior)
      (hnew : .opened u.id ∉ prior) (hlater : ∀ m ∈ later, m.Of u.id)
      (hopen : later.any (isCommit u.id) = false)
      (hserial : Store.empty.Replays (serial prior) ⟨u.snapshot, none⟩)
      (hcalls : (⟨u.snapshot, none⟩ : Store).Replays (later.filterMap (callOf? u.id))
        ⟨t, none⟩) :
    Explain (prior ++ .opened u.id :: later) ⟨t, some u⟩

theorem owned_snoc {marks : List Mark} {m : Mark} (howned : Owned marks)
    (hm : m.owner? = none) : Owned (marks ++ [m]) := by
  intro n hn id hid
  rcases List.mem_append.mp hn with hold | hnew
  · exact List.mem_append_left _ (howned n hold id hid)
  · rw [List.mem_singleton.mp hnew, hm] at hid
    cases hid

theorem owned_unit {prior later : List Mark} {id : Uuid} (howned : Owned prior)
    (hlater : ∀ m ∈ later, m.Of id) : Owned (prior ++ .opened id :: later) := by
  intro m hm other hother
  by_cases hid : other = id
  · rw [hid]
    simp
  · rcases List.mem_append.mp hm with hprior | hrest
    · exact List.mem_append_left _ (howned m hprior other hother)
    · rcases List.mem_cons.mp hrest with rfl | hrest
      · cases hother
      · exact absurd hother ((hlater m hrest).owner? hid)

theorem of_snoc {later : List Mark} {m : Mark} {id : Uuid} (hlater : ∀ m ∈ later, m.Of id)
    (hm : m.Of id) : ∀ n ∈ later ++ [m], n.Of id := by
  intro n hn
  rcases List.mem_append.mp hn with hold | hnew
  · exact hlater n hold
  · rw [List.mem_singleton.mp hnew]
    exact hm

theorem serial_snoc {marks : List Mark} {m : Mark} (hm : m.owner? = none) :
    serial (marks ++ [m]) = serial marks ++ replayed (marks ++ [m]) m := by
  rw [serial_append]
  · simp
  · intro id _ n hn
    rw [List.mem_singleton.mp hn, hm]
    simp

namespace Explain

variable {prior later : List Mark} {t t' : Tables} {u : OpenUnit}

private theorem goes_on {m : Mark} (howned : Owned prior) (hnew : .opened u.id ∉ prior)
    (hlater : ∀ m ∈ later, m.Of u.id) (hopen : later.any (isCommit u.id) = false)
    (hserial : Store.empty.Replays (serial prior) ⟨u.snapshot, none⟩)
    (hm : m.Of u.id) (hcommit : m.isCommit u.id = false)
    (hcalls : (⟨u.snapshot, none⟩ : Store).Replays
      (later.filterMap (callOf? u.id) ++ (callOf? u.id m).toList) ⟨t, none⟩) :
    Explain (prior ++ .opened u.id :: later ++ [m]) ⟨t, some u⟩ := by
  rw [List.append_assoc, List.cons_append]
  refine .busy howned hnew (of_snoc hlater hm) ?_ hserial ?_
  · simp [hopen, hcommit]
  · rw [List.filterMap_append]
    cases hcall : callOf? u.id m with
    | none => simpa [hcall] using hcalls
    | some e => simpa [hcall] using hcalls

private theorem closes {m : Mark} (howned : Owned prior) (hnew : .opened u.id ∉ prior)
    (hlater : ∀ m ∈ later, m.Of u.id) (hm : m.Of u.id)
    (hserial : Store.empty.Replays (serial prior ++
      if (later ++ [m]).any (isCommit u.id) then (later ++ [m]).filterMap (callOf? u.id)
      else []) ⟨t, none⟩) :
    Explain (prior ++ .opened u.id :: later ++ [m]) ⟨t, none⟩ := by
  rw [List.append_assoc, List.cons_append]
  refine .free (owned_unit howned (of_snoc hlater hm)) ?_
  rw [serial_unit howned hnew (of_snoc hlater hm)]
  exact hserial

theorem snoc {marks : List Mark} {s s' : Store} {m : Mark} (h : Explain marks s)
    (hmoves : m.Moves s s') (hnext : ∀ id, m = .opened id → .opened id ∉ marks) :
    Explain (marks ++ [m]) s' := by
  cases h with
  | @free _ t howned hserial =>
    cases hmoves with
    | idle =>
      refine .free (owned_snoc howned rfl) ?_
      have hnothing : replayed (marks ++ [.nothing]) .nothing = [] := rfl
      rw [serial_snoc rfl, hnothing, List.append_nil]
      exact hserial
    | plain _ t' e hanswer =>
      refine .free (owned_snoc howned rfl) ?_
      rw [serial_snoc rfl]
      exact hserial.snoc hanswer
    | opened _ id =>
      have hnone : ∀ m ∈ ([] : List Mark), m.Of id := fun m hm => nomatch hm
      exact @busy marks [] t ⟨id, t⟩ howned (hnext id rfl) hnone rfl hserial rfl
  | @busy prior later t u howned hnew hlater hopen hserial hcalls =>
    cases hmoves with
    | idle =>
      apply goes_on howned hnew hlater hopen hserial (.inl rfl) rfl
      simpa [callOf?] using hcalls
    | inside _ t' _ e hanswer =>
      apply goes_on howned hnew hlater hopen hserial (.inr (.inl ⟨e, rfl⟩)) rfl
      rw [callOf?, if_pos rfl]
      exact hcalls.snoc hanswer
    | undone =>
      apply closes howned hnew hlater (.inl rfl)
      rw [List.any_append, hopen]
      simpa [isCommit] using hserial
    | committed =>
      apply closes howned hnew hlater (.inr (.inr rfl))
      have hcommit : (later ++ [Mark.committed u.id]).any (isCommit u.id) = true := by
        rw [List.any_append, hopen]
        simp [isCommit]
      rw [hcommit, if_pos rfl, List.filterMap_append]
      have hcall : [Mark.committed u.id].filterMap (callOf? u.id) = [] := rfl
      rw [hcall, List.append_nil]
      exact Store.replays_append.mpr ⟨_, hserial, hcalls⟩

end Explain

end Mark

/-! ## Histories that go on -/

theorem Mark.Moves.was_open {m : Mark} {s s' : Store} {u : OpenUnit} (h : m.Moves s s')
    (hu : s'.opened = some u) : s.opened = some u ∨ m = .opened u.id := by
  cases h with
  | idle => exact .inl hu
  | inside => exact .inl hu
  | opened t id =>
    cases hu
    exact .inr rfl
  | undone | plain | committed => cases hu

theorem Mark.Moves.owner_open {m : Mark} {s s' : Store} {id : Uuid} (h : m.Moves s s')
    (hid : m.owner? = some id) : ∃ u, s.opened = some u ∧ u.id = id := by
  cases h with
  | inside t t' u e hanswer => exact ⟨u, rfl, Option.some.inj hid⟩
  | committed t u => exact ⟨u, rfl, Option.some.inj hid⟩
  | idle | undone | plain | opened => cases hid

namespace History

variable {past more : History} {s s' : Store}

theorem Leads.explain (h : past.Leads s more s') (hpast : Mark.Explain past.marks s) :
    Mark.Explain (past ++ more).marks s' := by
  induction h with
  | nil => simpa using hpast
  | snoc hmore hnext ih =>
    rw [← List.append_assoc, marks_append]
    exact ih.snoc hnext.moves hnext.2

/-- While no unit is open, all the units opened so far have come to their end:
later exchanges and commits are of later units. -/
theorem Leads.later_units (h : past.Leads s more s') (hopened : s.opened = none) :
    (∀ u, s'.opened = some u → .opened u.id ∉ past.marks) ∧
      ∀ m ∈ more.marks, ∀ id, m.owner? = some id → .opened id ∉ past.marks := by
  induction h with
  | nil => exact ⟨fun u hu => (nomatch hopened.symm.trans hu), fun m hm => nomatch hm⟩
  | @snoc more o mid s' hmore hnext ih =>
    obtain ⟨hunit, howners⟩ := ih
    constructor
    · intro u hu
      rcases hnext.moves.was_open hu with hbefore | hmark
      · exact hunit u hbefore
      · intro hold
        apply hnext.2 u.id hmark
        rw [marks_append]
        exact List.mem_append_left _ hold
    · intro m hm id hid
      rw [marks_append] at hm
      rcases List.mem_append.mp hm with hold | hlast
      · exact howners m hold id hid
      · have hmark : m = o.mark := List.mem_singleton.mp hlast
        rw [hmark] at hid
        obtain ⟨u, hu, rfl⟩ := hnext.moves.owner_open hid
        exact hunit u hu

theorem Leads.serial_prefix (h : past.Leads s more s') (hopened : s.opened = none) :
    past.serial <+: (past ++ more).serial := by
  have howners := (h.later_units hopened).2
  unfold serial
  rw [marks_append, Mark.serial_append fun id hid m hm hm' => howners m hm id hm' hid]
  exact List.prefix_append _ _

/-! ## Handles of closed units -/

theorem mark_of_obtains {o : Occurrence} {h : Handle} (hobtains : o.obtains h) :
    o.mark = .opened h.id := by
  unfold Occurrence.obtains at hobtains
  split at hobtains
  · rw [← hobtains]
    rfl
  · exact hobtains.elim

theorem home_of_obtains {o : Occurrence} {h : Handle} (hnext : o.Next past s s')
    (hobtains : o.obtains h) : h.home = .memory 0 := by
  unfold Occurrence.obtains at hobtains
  split at hobtains
  · subst hobtains
    have hserved := hnext.1
    simp only [Store.serve, Store.begin] at hserved
    split at hserved
    · cases hserved
    · split at hserved
      · cases hserved
      · cases hserved
        rfl
  · exact hobtains.elim

theorem closed_snoc {o : Occurrence} {h : Handle} (hclosed : Closed (past ++ [o]) h) :
    past.Closed h ∨ (∃ o ∈ past, o.obtains h) ∧ o.closes h := by
  obtain ⟨before, after, hpast, hobtained, last, hlast, hcloses⟩ := hclosed
  rcases List.eq_nil_or_concat after with rfl | ⟨earlier, final, rfl⟩
  · cases hlast
  · rw [List.concat_eq_append] at hpast hlast
    rw [← List.append_assoc] at hpast
    obtain ⟨rfl, hfinal⟩ := List.append_inj' hpast rfl
    cases hfinal
    obtain ⟨first, hfirst, hobtains⟩ := hobtained
    rcases List.mem_append.mp hlast with hearlier | hfinal
    · exact .inl ⟨before, earlier, rfl, ⟨first, hfirst, hobtains⟩, last, hearlier, hcloses⟩
    · rw [List.mem_singleton.mp hfinal] at hcloses
      exact .inr ⟨⟨first, List.mem_append_left _ hfirst, hobtains⟩, hcloses⟩

theorem closes_cases {o : Occurrence} {h : Handle} (hnext : o.Next past s s')
    (hcloses : o.closes h) :
    (∃ u, s.unitOf h = .ok u ∧ s'.opened = none) ∨ ∃ e, s.unitOf h = .error e ∧ s' = s := by
  obtain ⟨hserved, _⟩ := hnext
  unfold Occurrence.closes at hcloses
  cases hunit : s.unitOf h with
  | ok u =>
    left
    refine ⟨u, rfl, ?_⟩
    split at hcloses
    · subst hcloses
      simp only [Store.serve, Store.commit, hunit] at hserved
      cases hserved
      rfl
    · subst hcloses
      simp only [Store.serve, Store.rollback, hunit] at hserved
      cases hserved
      rfl
    · subst hcloses
      simp only [Store.drop, Store.rollback, hunit] at hserved
      rw [hserved]
    · exact hcloses.elim
  | error e =>
    right
    refine ⟨e, rfl, ?_⟩
    split at hcloses
    · subst hcloses
      simp only [Store.serve, Store.commit, hunit] at hserved
      cases hserved
    · subst hcloses
      simp only [Store.serve, Store.rollback, hunit] at hserved
      cases hserved
    · subst hcloses
      simpa only [Store.drop, Store.rollback, hunit] using hserved
    · exact hcloses.elim

/-- Whatever closes a handle leaves no open unit that it names. -/
theorem closes_leaves {o : Occurrence} {h : Handle} (hnext : o.Next past s s')
    (hcloses : o.closes h) (hhome : h.home = .memory 0) :
    ∀ u, s'.opened = some u → u.id ≠ h.id := by
  intro u hu hid
  rcases closes_cases hnext hcloses with ⟨_, _, hnone⟩ | ⟨e, hunit, rfl⟩
  · rw [hnone] at hu
    cases hu
  · have hnamed := Store.unitOf_eq_ok_iff.mpr ⟨⟨0, hhome⟩, hu, hid⟩
    rw [hunit] at hnamed
    cases hnamed

theorem Leads.handles (h : Leads [] .empty past s) :
    (∀ o ∈ past, ∀ h, o.obtains h → h.home = .memory 0) ∧
      ∀ h, past.Closed h → ∀ u, s.opened = some u → u.id ≠ h.id := by
  induction h with
  | nil => exact ⟨fun o ho => (nomatch ho), fun h _ u hu => nomatch hu⟩
  | @snoc more o mid s' hmore hnext ih =>
    obtain ⟨hhomes, hclosed⟩ := ih
    constructor
    · intro o' ho' h hobtains
      rcases List.mem_append.mp ho' with hold | hlast
      · exact hhomes o' hold h hobtains
      · rw [List.mem_singleton.mp hlast] at hobtains
        exact home_of_obtains hnext hobtains
    · intro h hclosed'
      rcases closed_snoc hclosed' with hbefore | ⟨⟨first, hfirst, hobtains⟩, hcloses⟩
      · intro u hu hid
        rcases hnext.moves.was_open hu with hold | hmark
        · exact hclosed h hbefore u hold hid
        · obtain ⟨before, after, rfl, ⟨first, hfirst, hobtains⟩, _⟩ := hbefore
          apply hnext.2 u.id hmark
          rw [hid, ← mark_of_obtains hobtains]
          exact List.mem_map_of_mem (List.mem_append_right _ (List.mem_append_left _ hfirst))
      · exact closes_leaves hnext hcloses (hhomes first hfirst h hobtains)

end History

/-- Nothing that is called with the handle does anything: it is refused as closed,
or comes too late. -/
structure Store.TurnsAway (s : Store) (h : Handle) : Prop where
  ask : ∀ tick ctx request, ctx.handle = some h → ∃ e,
    s.serve 0 tick (.ask ctx request) = .answered (.error e) s ∧
      (ctx.isOver tick.now = false → e = .transactionClosed h.id)
  commit : ∀ tick, s.serve 0 tick (.commit h) = .answered (.error (.transactionClosed h.id)) s
  rollback : ∀ tick,
    s.serve 0 tick (.rollback h) = .answered (.error (.transactionClosed h.id)) s
  drop : s.drop h = s

theorem Store.turnsAway {s : Store} {h : Handle} (hhome : h.home = .memory 0)
    (hother : ∀ u, s.opened = some u → u.id ≠ h.id) : s.TurnsAway h := by
  have hunit : s.unitOf h = .error (.transactionClosed h.id) := by
    unfold unitOf
    cases hopened : s.opened with
    | none => simp [hhome]
    | some u => simp [hhome, hother u hopened]
  refine ⟨fun tick ctx request hctx => ?_, fun tick => ?_, fun tick => ?_, ?_⟩
  · by_cases hover : ctx.isOver tick.now = true
    · refine ⟨.deadlineExceeded (Memory.operation request), ?_, ?_⟩
      · simp [serve, Store.ask, hover]
      · simp [hover]
    · refine ⟨.transactionClosed h.id, ?_, fun _ => rfl⟩
      simp [serve, Store.ask, hover, hctx, hunit]
  · simp [serve, Store.commit, hunit]
  · simp [serve, Store.rollback, hunit]
  · simp [Store.drop, Store.rollback, hunit]

/-- The tables are those of the serial order whenever no unit is open, with the
answers that were given; a closed handle does nothing any more; and the serial
order only grows, so that a committed unit is never undone. -/
theorem serializable {past : History} {s : Store} (hpast : History.Leads [] .empty past s) :
    (s.opened = none → Store.empty.Replays past.serial s) ∧
      (∀ h, past.Closed h → s.TurnsAway h) ∧
      ∀ more s', past.Leads s more s' → s.opened = none →
        past.serial <+: (past ++ more).serial := by
  refine ⟨fun hopened => ?_, fun h hclosed => ?_, fun more s' hmore hopened => ?_⟩
  · have hempty : Mark.Explain (History.marks []) .empty :=
      .free (fun m hm => nomatch hm) rfl
    have hexplain := hpast.explain hempty
    rw [List.nil_append] at hexplain
    unfold History.serial
    revert hopened hexplain
    generalize past.marks = marks
    intro hopened hexplain
    cases hexplain with
    | free howned hserial => exact hserial
    | busy => cases hopened
  · obtain ⟨hhomes, hothers⟩ := hpast.handles
    have hobtained := hclosed
    obtain ⟨before, after, rfl, ⟨first, hfirst, hobtains⟩, _⟩ := hobtained
    exact Store.turnsAway (hhomes first (List.mem_append_left _ hfirst) h hobtains)
      (hothers h hclosed)
  · exact hmore.serial_prefix hopened

/-! A unit is committed, one is dropped, and a call follows outside of units. -/

def sampleTick (n : Nat) : Tick :=
  ⟨⟨0⟩, ⟨.ofNat n, ⟨0⟩, default⟩⟩

def sampleHandle (n : Nat) : Handle :=
  ⟨.ofNat n, .memory 0⟩

def sampleOrganization (n : Nat) : Organization :=
  ⟨.ofNat n, "Northern Schools", ⟨0⟩⟩

/-- An organization is created at the moment of its number. -/
def sampleCall (ctx : Ctx) (n : Nat) : Occurrence :=
  .call (sampleTick n) (.ask ctx (.createOrganization ⟨"Northern Schools"⟩))
    (.ok (sampleOrganization n))

def sampleHistory : History :=
  [.call (sampleTick 1) (.begin .background) (.ok (sampleHandle 1)),
    sampleCall (Ctx.background.withHandle (sampleHandle 1)) 2,
    .call (sampleTick 3) (.commit (sampleHandle 1)) (.ok ()),
    .call (sampleTick 4) (.begin .background) (.ok (sampleHandle 4)),
    sampleCall (Ctx.background.withHandle (sampleHandle 4)) 5,
    .drop (sampleHandle 4),
    sampleCall .background 6]

/-- The tables once the organizations of these numbers are created. -/
def sampleTables (numbers : List Nat) : Tables :=
  { organizations := numbers.map sampleOrganization }

def sampleUnit (n : Nat) (numbers : List Nat) : OpenUnit :=
  ⟨.ofNat n, sampleTables numbers⟩

theorem leads_sampleHistory :
    History.Leads [] .empty sampleHistory ⟨sampleTables [2, 6], none⟩ := by
  have hfirst : sampleHistory[0].Next [] .empty ⟨sampleTables [], some (sampleUnit 1 [])⟩ :=
    ⟨rfl, fun id h hold => by cases hold⟩
  have hinside : sampleHistory[1].Next (sampleHistory.take 1)
      ⟨sampleTables [], some (sampleUnit 1 [])⟩ ⟨sampleTables [2], some (sampleUnit 1 [])⟩ :=
    ⟨rfl, fun id h => by cases h⟩
  have hcommit : sampleHistory[2].Next (sampleHistory.take 2)
      ⟨sampleTables [2], some (sampleUnit 1 [])⟩ ⟨sampleTables [2], none⟩ :=
    ⟨rfl, fun id h => by cases h⟩
  have hsecond : sampleHistory[3].Next (sampleHistory.take 3)
      ⟨sampleTables [2], none⟩ ⟨sampleTables [2], some (sampleUnit 4 [2])⟩ := by
    refine ⟨rfl, fun id h => ?_⟩
    cases h
    have hnew : Uuid.ofNat 4 ≠ .ofNat 1 := by decide
    simp [History.marks, sampleHistory, sampleCall, Occurrence.mark, stopped,
      Ctx.withHandle, sampleHandle, sampleTick, hnew]
  have hdropped : sampleHistory[4].Next (sampleHistory.take 4)
      ⟨sampleTables [2], some (sampleUnit 4 [2])⟩
      ⟨sampleTables [2, 5], some (sampleUnit 4 [2])⟩ :=
    ⟨rfl, fun id h => by cases h⟩
  have hdrop : sampleHistory[5].Next (sampleHistory.take 5)
      ⟨sampleTables [2, 5], some (sampleUnit 4 [2])⟩ ⟨sampleTables [2], none⟩ :=
    ⟨rfl, fun id h => by cases h⟩
  have hplain : sampleHistory[6].Next (sampleHistory.take 6)
      ⟨sampleTables [2], none⟩ ⟨sampleTables [2, 6], none⟩ :=
    ⟨rfl, fun id h => by cases h⟩
  exact .snoc (.snoc (.snoc (.snoc (.snoc (.snoc (.snoc .nil hfirst) hinside) hcommit)
    hsecond) hdropped) hdrop) hplain

theorem serializable_sampleHistory :
    (History.Leads [] .empty sampleHistory ⟨sampleTables [2, 6], none⟩ ∧
        sampleHistory.Closed (sampleHandle 4)) ∧
      Store.empty.Replays sampleHistory.serial ⟨sampleTables [2, 6], none⟩ ∧
      (⟨sampleTables [2, 6], none⟩ : Store).TurnsAway (sampleHandle 4) := by
  have hleads := leads_sampleHistory
  have hclosed : sampleHistory.Closed (sampleHandle 4) := by
    refine ⟨sampleHistory.take 4, sampleHistory.drop 4, rfl, ?_, ?_⟩
    · exact ⟨_, .tail _ (.tail _ (.tail _ (.head _))), rfl⟩
    · exact ⟨_, .tail _ (.head _), rfl⟩
  obtain ⟨hserial, hturned, _⟩ := serializable hleads
  exact ⟨⟨hleads, hclosed⟩, hserial rfl, hturned _ hclosed⟩

end Registrar
