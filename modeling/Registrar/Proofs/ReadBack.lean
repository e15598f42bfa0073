import Registrar.Proofs.Client
import Registrar.Proofs.Resolution
import Registrar.Proofs.Seat
import Registrar.Proofs.Sharing

/-!
# A stored profile is read back

A client adds a profile in any context without a unit of work, while others use the store
between its calls.  `Adding` follows it: it is outside of its unit and has left no trace, or
has its unit open and is not disturbed, or has stored the profile and reads it back from
tables that only grow.  So it is given the profile it has stored, joined with what its keys
name, unless its deadline comes; and whoever asks for the profile later is given the same
(`stored_profile_reads_back`).
-/

namespace Registrar

open Program Service

/-! ## Inside the unit of work -/

namespace Program

variable {α β : Type} {h : Handle}

/-- The program makes requests with a handle, until it closes the unit of the handle. -/
def Within (h : Handle) : Program α → Prop
  | .done _ | .fail _ => True
  | .note _ next => next.Within h
  | .call (.ask ctx _) next => ctx.handle = some h ∧ ∀ answer, (next answer).Within h
  | .call (.commit h') _ | .call (.rollback h') _ => h' = h
  | .call (.begin _) _ => False

theorem within_bind {p : Program α} {f : α → Program β} {inside : Ctx}
    (hinside : inside.handle = some h) (hp : p.Makes (AsksIn inside))
    (hf : ∀ a, (f a).Within h) : (p >>= f).Within h := by
  change (p.bind f).Within h
  induction p with
  | done a => exact hf a
  | fail e => trivial
  | note event next ih => exact ih hp
  | call c next ih =>
    obtain ⟨⟨request, rfl⟩, hnext⟩ := hp
    exact ⟨hinside, fun answer => ih answer (hnext answer)⟩

end Program

theorem within_afterBeginIn (ctx : Ctx) (new : NewProfile) (h : Handle) :
    (afterBeginIn ctx new h).Within h := by
  unfold afterBeginIn
  refine within_bind rfl (makes_attempt (asksIn_provisionIn _ new)) fun outcome => ?_
  cases outcome with
  | ok row => exact rfl
  | error e => exact rfl

/-- How the unit of a client who adds a profile closes: undone, or with both rows stored and
the profile to be read back. -/
inductive UnitCloses (ctx : Ctx) (new : NewProfile) (t : Tables) :
    Program Profile → Store → Prop
  | undone (event : Event) (e : AppError) : UnitCloses ctx new t (.note event (.fail e)) ⟨t, none⟩
  | stored (event event' : Event) (first second : Stamp)
      (hgrant : Memory.checkGrant t (new.grant first) = .ok ())
      (hprofile : Memory.checkProfile second.order (t.addGrant (new.grant first))
        (new.row first.id second) = .ok ()) :
    UnitCloses ctx new t (.note event (.note event' (profileById ctx new.kind second.id)))
      ⟨seated t new first second, none⟩

theorem unitCloses_afterBeginIn (ctx : Ctx) (new : NewProfile) (t : Tables) (id : Uuid) :
    (afterBeginIn ctx new ⟨id, .memory 0⟩).UntilClosed (UnitCloses ctx new t)
      ⟨t, some ⟨id, t⟩⟩ :=
  untilClosed_afterBeginIn (fun e _ _ event => .undone event e)
    fun first second hgrant hprofile event event' =>
      .stored event event' first second hgrant hprofile

/-! ## The stored profile -/

theorem NewProfile.placedIn_row (new : NewProfile) (roleId : Uuid) (stamp : Stamp) :
    (new.row roleId stamp).placedIn = new.placedIn := by
  unfold ProfileRow.placedIn NewProfile.row NewProfile.placedIn
  by_cases hstudent : new.kind = .student <;> simp [hstudent]

/-- The checks of the grant and of the profile have looked up all keys of the profile. -/
theorem resolves_seated {t : Tables} {new : NewProfile} {first second : Stamp}
    (hgrant : Memory.checkGrant t (new.grant first) = .ok ())
    (hprofile : Memory.checkProfile second.order (t.addGrant (new.grant first))
      (new.row first.id second) = .ok ()) :
    (seated t new first second).Resolves (Hydratable.keys (new.row first.id second).bare) := by
  obtain ⟨_, _, _, hgroup, _⟩ := Memory.checkGrant_eq_ok_iff.mp hgrant
  obtain ⟨_, huser, hscope, _⟩ := Memory.checkProfile_eq_ok_iff.mp hprofile
  have huser' : ∀ id ∈ [new.userId], ((seated t new first second).user? id).isSome := by
    intro id hid
    rw [List.mem_singleton.mp hid]
    exact huser
  have hgroup' : ∀ id ∈ (new.row first.id second).placedIn.toList,
      ((seated t new first second).groupShort? id).isSome := by
    intro id hid
    rw [new.placedIn_row] at hid
    have hplaced : (new.grant first).scope.groupId = some id :=
      new.groupId_scope.trans (Option.mem_toList.mp hid)
    exact Option.isSome_map.trans (hgroup id hplaced)
  unfold Tables.scopeExists at hscope
  have hkind : (new.row first.id second).bare.kind = new.kind := rfl
  have hkind' : (new.row first.id second).kind = new.kind := rfl
  rw [hkind'] at hscope
  simp only [Hydratable.keys, hkind]
  cases hscopeKind : new.kind.role.scopeKind with
  | school =>
    rw [hscopeKind] at hscope
    constructor
    case users => exact huser'
    case groups => exact hgroup'
    case schools =>
      intro id hid
      rw [List.mem_singleton.mp hid]
      exact Option.isSome_map.trans hscope
    all_goals exact fun _ hnone => nomatch hnone
  | organization =>
    rw [hscopeKind] at hscope
    constructor
    case users => exact huser'
    case organizations =>
      intro id hid
      rw [List.mem_singleton.mp hid]
      exact Option.isSome_map.trans hscope
    all_goals exact fun _ hnone => nomatch hnone

theorem profile?_seated {t : Tables} {new : NewProfile} {first second : Stamp}
    (hdistinct : (seated t new first second).Distinct) :
    (seated t new first second).profile? new.kind second.id =
      some (new.row first.id second) := by
  apply (hdistinct.keyed.profiles _ _ _).mpr
  exact ⟨List.mem_append_right _ (List.mem_singleton_self _), rfl, rfl⟩

/-! ## The client at work -/

/-- What is left of the program while the client has no unit open and has left no trace: all
of it, or an error to end with. -/
inductive Traceless (ctx : Ctx) (new : NewProfile) : Program Profile → Prop
  | start (hvalid : Ruled.check new = .ok ()) : Traceless ctx new (addProfile ctx new)
  | telling (event : Event) (e : AppError) : Traceless ctx new (.note event (.fail e))
  | failed (e : AppError) : Traceless ctx new (.fail e)

theorem traceless_addProfile (ctx : Ctx) (new : NewProfile) :
    Traceless ctx new (addProfile ctx new) := by
  cases hvalid : Ruled.check new with
  | ok u => exact .start hvalid
  | error e =>
    have hfail : addProfile ctx new = .fail e := by
      unfold addProfile provision
      rw [hvalid]
      rfl
    rw [hfail]
    exact .failed e

theorem Traceless.not_done {ctx : Ctx} {new : NewProfile} {p : Profile}
    (h : Traceless ctx new (.done p)) (hplain : ctx.handle = none) : False := by
  generalize hp : Program.done p = rest at h
  cases h with
  | start hvalid =>
    rw [addProfile_beginsIn hplain hvalid] at hp
    cases hp
  | telling event e => cases hp
  | failed e => cases hp

/-- Where a client who adds a profile can be, and what its calls have done. -/
inductive Adding (ctx : Ctx) (new : NewProfile) : List Passage → Client Profile → Prop
  | outside {log : List Passage} {s : Store} {p : Program Profile} (hcalled : Called s)
      (hlog : Unchanged log) (hrest : Traceless ctx new p) : Adding ctx new log ⟨s, p, none⟩
  | inside {log : List Passage} {s : Store} {p : Program Profile} {id : Uuid} {t : Tables}
      (hcalled : Called s) (hlog : Unchanged log) (hopened : s.opened = some ⟨id, t⟩)
      (hcloses : p.UntilClosed (UnitCloses ctx new t) s) (hwithin : p.Within ⟨id, .memory 0⟩) :
    Adding ctx new log ⟨s, p, some ⟨id, .memory 0⟩⟩
  | stored {earlier later : List Passage} {m : Passage} {c : Client Profile}
      (first second : Stamp) (hearlier : Unchanged earlier)
      (hafter : m.after = seated m.before new first second)
      (hanchored : m.after.Anchored)
      (hfound : m.after.profile? new.kind second.id = some (new.row first.id second))
      (hkeys : m.after.Resolves (Hydratable.keys (new.row first.id second).bare))
      (hreads : c.Rereads ctx m.after (m.after.joinProfile (new.row first.id second).bare)
        later) :
    Adding ctx new (earlier ++ m :: later) c

namespace Adding

variable {ctx : Ctx} {new : NewProfile} {log : List Passage} {s s' : Store}
  {held : Option Handle}

theorem others {p : Program Profile} (h : Adding ctx new log ⟨s, p, held⟩)
    (hstep : s.Step (held.map Handle.id) s') : Adding ctx new log ⟨s', p, held⟩ := by
  cases h with
  | outside hcalled hlog hrest => exact .outside (hcalled.later (.single hstep.any)) hlog hrest
  | inside hcalled hlog hopened hcloses hwithin =>
    rw [hstep.of_opened hopened]
    exact .inside hcalled hlog hopened hcloses hwithin
  | stored first second hearlier hafter hanchored hfound hkeys hreads =>
    exact .stored first second hearlier hafter hanchored hfound hkeys (hreads.others hstep)

theorem note {event : Event} {next : Program Profile} (hplain : ctx.handle = none)
    (h : Adding ctx new log ⟨s, .note event next, held⟩) : Adding ctx new log ⟨s, next, held⟩ := by
  cases h with
  | outside hcalled hlog hrest =>
    generalize hp : Program.note event next = p at hrest
    cases hrest with
    | start hvalid =>
      rw [addProfile_beginsIn hplain hvalid] at hp
      cases hp
    | telling event e =>
      cases hp
      exact .outside hcalled hlog (.failed e)
    | failed e => cases hp
  | inside hcalled hlog hopened hcloses hwithin =>
    exact .inside hcalled hlog hopened hcloses hwithin
  | stored first second hearlier hafter hanchored hfound hkeys hreads =>
    exact .stored first second hearlier hafter hanchored hfound hkeys hreads.note

theorem closed {t : Tables} {p : Program Profile} {now : Instant} (hcalled : Called s)
    (hlog : Unchanged log) (hcloses : UnitCloses ctx new t p s)
    (hdistinct : s.standing.Distinct) :
    Adding ctx new (log ++ [⟨now, t, s.standing⟩]) ⟨s, p, none⟩ := by
  cases hcloses with
  | undone event e =>
    exact .outside hcalled (hlog.snoc rfl) (.telling event e)
  | stored event event' first second hgrant hprofile =>
    have hanchored := hcalled.anchored.now
    have hfound := profile?_seated hdistinct
    have hkeys := resolves_seated hgrant hprofile
    exact .stored first second hlog rfl hanchored hfound hkeys
      ⟨hcalled, .refl _, rfl, unchanged_nil, .inl (reads_profileById hanchored hfound hkeys)⟩

theorem call {after : Store} {made : Call} {next : Result made.Answer → Program Profile}
    {answer : Result made.Answer} {tick : Tick} (hplain : ctx.handle = none)
    (h : Adding ctx new log ⟨s, .call made next, held⟩)
    (hserved : s.serve 0 tick made = .answered answer after)
    (hdistinct : after.standing.Distinct) :
    Adding ctx new (log ++ [⟨tick.now, s.standing, after.standing⟩])
      ⟨after, next answer, Client.heldAfter held made answer⟩ := by
  have hlater : s.Later after := .single (.call tick (fun _ _ hnone => nomatch hnone) hserved)
  cases h with
  | stored first second hearlier hafter hanchored hfound hkeys hreads =>
    rw [List.append_assoc, List.cons_append]
    exact .stored first second hearlier hafter hanchored hfound hkeys
      (hreads.call hplain hserved)
  | outside hcalled hlog hrest =>
    generalize hp : Program.call made next = p at hrest
    cases hrest with
    | telling event e => cases hp
    | failed e => cases hp
    | start hvalid =>
      -- The only call so far is the one that opens the unit.
      rw [addProfile_beginsIn hplain hvalid] at hp
      cases hp
      rcases Store.serve_begin hserved with ⟨rfl, e, rfl⟩ | ⟨hopened, rfl, rfl⟩
      · exact .outside hcalled (hlog.snoc rfl) (.failed e)
      · have hstanding : s.tables = s.standing := by simp only [Store.standing, hopened]
        exact .inside (hcalled.later hlater) (hlog.snoc hstanding) rfl
          (unitCloses_afterBeginIn ctx new s.tables tick.stamp.id)
          (within_afterBeginIn ctx new ⟨tick.stamp.id, .memory 0⟩)
  | @inside _ _ _ id t hcalled hlog hopened hcloses hwithin =>
    have hunit : s.unitOf ⟨id, .memory 0⟩ = .ok ⟨id, t⟩ := Store.unitOf_own hopened rfl
    have hstanding : s.standing = t := by simp only [Store.standing, hopened]
    have hcall := hcloses tick
    have hanswer := Store.answer_of_answered hserved
    rw [hanswer] at hcall
    rw [hstanding]
    -- Requests leave the unit open, and only its own handle closes it.
    cases made with
    | begin _ => exact hwithin.elim
    | commit h =>
      obtain rfl : h = ⟨id, .memory 0⟩ := hwithin
      cases hanswer.symm.trans (Store.answer_commit hunit tick)
      exact closed (hcalled.later hlater) hlog hcall hdistinct
    | rollback h =>
      obtain rfl : h = ⟨id, .memory 0⟩ := hwithin
      cases hanswer.symm.trans (Store.answer_rollback hunit tick)
      exact closed (hcalled.later hlater) hlog hcall hdistinct
    | ask ctx' request =>
      have hstill : after.opened = some ⟨id, t⟩ :=
        (Store.opened_of_ask hserved).trans hopened
      simp only [hstill] at hcall
      have hsame : after.standing = t := by simp only [Store.standing, hstill]
      exact .inside (hcalled.later hlater) (hlog.snoc hsame) hstill hcall (hwithin.2 answer)

theorem runs {c : Client Profile} (hplain : ctx.handle = none) (hcalled : Called s)
    (hruns : Client.Runs ⟨s, addProfile ctx new, none⟩ log c)
    (hdistinct : ∀ m ∈ log, m.after.Distinct) : Adding ctx new log c := by
  induction hruns with
  | refl => exact .outside hcalled unchanged_nil (traceless_addProfile ctx new)
  | others hruns hstep ih => exact (ih hdistinct).others hstep
  | note hruns ih => exact (ih hdistinct).note hplain
  | @call log s after _ _ _ _ tick hruns hserved ih =>
    have hbefore := ih fun m hm => hdistinct m (List.mem_append_left _ hm)
    have hlast := hdistinct ⟨tick.now, s.standing, after.standing⟩ (by simp)
    exact hbefore.call hplain hserved hlast

/-- A client never waits while it has a unit open itself. -/
theorem waits {c : Client Profile} (h : Adding ctx new log c) (hwaits : c.Waits) :
    c.held = none ∧ c.store.opened.isSome := by
  cases h with
  | stored first second hearlier hafter hanchored hfound hkeys hreads =>
    exact hreads.returns.waits hwaits
  | outside hcalled hlog hrest =>
    obtain ⟨tick, made, next, _, hwaiting⟩ := hwaits
    exact ⟨rfl, Store.opened_of_waiting hwaiting⟩
  | inside hcalled hlog hopened hcloses hwithin =>
    obtain ⟨tick, made, next, hrest, hwaiting⟩ := hwaits
    simp only at hrest
    subst hrest
    cases made with
    | begin _ => exact hwithin.elim
    | commit _ | rollback _ => cases hwaiting
    | ask ctx' request =>
      rcases Store.ask_cases _ tick ctx' request with
        ⟨_, _, hask⟩ | ⟨_, hnone, _⟩ | ⟨hask, _⟩
      · cases hask.symm.trans hwaiting
      · cases hnone.symm.trans hwithin.1
      · cases hask.symm.trans hwaiting

end Adding

/-- What becomes of a stored profile: it is joined with all that its keys name, and given so to
the client who has stored it and to whoever asks for it later. -/
structure ReadsBack (ctx : Ctx) (t : Tables) (row : ProfileRow) (later : List Passage)
    (c : Client Profile) : Prop where
  columns : (t.joinProfile row.bare).toProfileRow = row
  complete : (t.joinProfile row.bare).Complete
  returns : c.Returns ctx (t.joinProfile row.bare) later
  again : ∀ {s : Store} {ctx' : Ctx} {log : List Passage} {c' : Client Profile},
    c.store.Later s → ctx'.handle = none →
    Client.Runs ⟨s, profileById ctx' row.kind row.id, none⟩ log c' →
    c'.Returns ctx' (t.joinProfile row.bare) log

/-- A client adds a profile outside of units of work, at whatever moments and whatever others
have answered in between.  Either none of its calls changes what stands, and it is not given a
profile; or one call stores the profile with its grant, which is then read back. -/
theorem stored_profile_reads_back {s : Store} (hcalled : Called s) {ctx : Ctx}
    (hplain : ctx.handle = none) {new : NewProfile} {log : List Passage} {c : Client Profile}
    (hruns : Client.Runs ⟨s, addProfile ctx new, none⟩ log c)
    (hdistinct : ∀ m ∈ log, m.after.Distinct) :
    (c.Waits → c.held = none ∧ c.store.opened.isSome) ∧
      ((Unchanged log ∧ ∀ p, c.rest ≠ .done p) ∨
        ∃ earlier m later first second, log = earlier ++ m :: later ∧
          Unchanged earlier ∧ Unchanged later ∧
          m.after = seated m.before new first second ∧
          ReadsBack ctx m.after (new.row first.id second) later c) := by
  have hadding := Adding.runs hplain hcalled hruns hdistinct
  refine ⟨hadding.waits, ?_⟩
  cases hadding with
  | outside _ hlog hrest =>
    refine .inl ⟨hlog, fun p hdone => ?_⟩
    simp only at hdone
    subst hdone
    exact hrest.not_done hplain
  | inside _ hlog _ hcloses _ =>
    refine .inl ⟨hlog, fun p hdone => ?_⟩
    simp only at hdone
    subst hdone
    exact hcloses
  | @stored earlier later m c first second hearlier hafter hanchored hfound hkeys hreads =>
    refine .inr ⟨earlier, m, later, first, second, rfl, hearlier, hreads.unchanged, hafter, ?_⟩
    refine ⟨toProfileRow_joinProfile _, complete_joinProfile hkeys, hreads.returns, ?_⟩
    intro s' ctx' log' c' hlater hplain' hruns'
    have hstart : Client.Rereads ctx' m.after (m.after.joinProfile (new.row first.id second).bare)
        [] ⟨s', profileById ctx' new.kind second.id, none⟩ :=
      { called := hreads.called.later hlater
        grown := hreads.grown.trans (hreads.called.stands hlater)
        held := rfl
        unchanged := unchanged_nil
        rest := .inl (reads_profileById hanchored hfound hkeys) }
    exact (hstart.runs hplain' hruns').returns

/-! ## A new classmate -/

def ticksFrom (first count : Nat) : List Tick :=
  (List.range count).map fun n => ⟨⟨0⟩, ⟨.ofNat (first + n), default, default⟩⟩

/-- The teacher of the first class is to be a student in it too, within a deadline. -/
def classmate : Client Profile :=
  ⟨firstClass,
    addProfile { deadline := some ⟨100⟩ }
      ⟨.student, .ofNat 40, .ofNat 20, some (.ofNat 70), none, none⟩, none⟩

def classmateStored : List Passage × Client Profile :=
  classmate.advances (ticksFrom 110 8)

/-- Somebody else becomes a user before the profile is read back. -/
def classmateDisturbed : Client Profile :=
  classmateStored.2.disturb ⟨.ofNat 120, default, default⟩
    (.createUser ⟨"Eve", "Brown", none, .female, none, "eve@a.org", "hash"⟩)

def Program.value? {α : Type} : Program α → Option α
  | .done a => some a
  | _ => none

theorem Program.exists_done_of_value? {α : Type} (p : Program α) (h : p.value?.isSome) :
    ∃ a, p = .done a := by
  cases p with
  | done a => exact ⟨a, rfl⟩
  | fail _ | note _ _ | call _ _ => cases h

def classmateReads : List Passage × Client Profile :=
  classmateDisturbed.advances (ticksFrom 130 8)

theorem runs_classmateReads :
    classmate.Runs (classmateStored.1 ++ classmateReads.1) classmateReads.2 := by
  have hstored : classmate.Runs classmateStored.1 classmateStored.2 :=
    Client.runs_advances .refl (ticksFrom 110 8)
  have hopened : classmateStored.2.store.opened = none := by decide +kernel
  have hdisturbed : classmate.Runs classmateStored.1 classmateDisturbed :=
    Client.runs_disturb hstored hopened _ _
  exact Client.runs_advances hdisturbed (ticksFrom 130 8)

theorem stored_profile_reads_back_classmate :
    (Called firstClass ∧
      classmate.Runs (classmateStored.1 ++ classmateReads.1) classmateReads.2 ∧
      ∀ m ∈ classmateStored.1 ++ classmateReads.1, m.after.Distinct) ∧
      ∃ p, classmateReads.2.rest = .done p ∧ p.Complete ∧ p.groupId = some (.ofNat 70) ∧
        p.userId = .ofNat 40 := by
  have hcalled : Called firstClass := reachable_firstClass.reached.called
  have hdistinct : ∀ m ∈ classmateStored.1 ++ classmateReads.1, m.after.Distinct := by
    unfold Tables.Distinct
    decide +kernel
  refine ⟨⟨hcalled, runs_classmateReads, hdistinct⟩, ?_⟩
  obtain ⟨p, hdone⟩ := Program.exists_done_of_value? classmateReads.2.rest (by decide +kernel)
  have hplain : ({ deadline := some ⟨100⟩ } : Ctx).handle = none := rfl
  obtain ⟨_, ⟨_, hnot⟩ | ⟨earlier, m, later, first, second, _, _, _, _, hback⟩⟩ :=
    stored_profile_reads_back hcalled hplain runs_classmateReads hdistinct
  · exact absurd hdone (hnot p)
  · have hp := hback.returns.value p hdone
    have hcolumns := hp ▸ hback.columns
    refine ⟨p, hdone, hp ▸ hback.complete, ?_, ?_⟩
    · rw [hcolumns]
      rfl
    · rw [hcolumns]
      rfl

end Registrar
