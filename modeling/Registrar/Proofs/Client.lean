import Registrar.Proofs.Crowd
import Registrar.Proofs.Reading
import Registrar.Proofs.UnitOfWork

/-!
# A client who adds a profile

The client opens a unit of work, has it to itself until it is committed or rolled
back, and reads the new profile back in the former case.  Reading back cannot fail
on a store without an open unit.
-/

namespace Registrar

open Program Service

/-! ## In the unit of work -/

/-- What a client does after it has opened its unit of work. -/
def afterBegin (new : NewProfile) (h : Handle) : Program Profile := do
  let outcome ← (provisionIn (Ctx.background.withHandle h) new).attempt
  let row ← endUnit h outcome
  report (.profileProvisioned row.kind row.id row.userId row.roleId)
  profileById .background new.kind row.id

/-- The same in any context without a unit of work. -/
def afterBeginIn (ctx : Ctx) (new : NewProfile) (h : Handle) : Program Profile := do
  let outcome ← (provisionIn (ctx.withHandle h) new).attempt
  let row ← endUnit h outcome
  report (.profileProvisioned row.kind row.id row.userId row.roleId)
  profileById ctx new.kind row.id

theorem addProfile_beginsIn {ctx : Ctx} {new : NewProfile} (hplain : ctx.handle = none)
    (hvalid : Ruled.check new = .ok ()) :
    addProfile ctx new = .call (.begin ctx) fun
      | .ok h => .note (.unitOpened h.id) (afterBeginIn ctx new h)
      | .error e => .fail e := by
  unfold addProfile provision inUnit beginUnit
  rw [hvalid, hplain]
  change Program.call _ _ = Program.call _ _
  congr
  funext answer
  cases answer with
  | error e => rfl
  | ok h =>
    have hassoc : ∀ (p : Program (Result ProfileRow))
        (close : Result ProfileRow → Program ProfileRow)
        (tell : ProfileRow → Program ProfileRow) (read : ProfileRow → Program Profile),
        ((p.bind close).bind tell).bind read =
          p.bind fun outcome => (close outcome).bind fun row => (tell row).bind read := by
      intro p close tell read
      simp only [Program.bind_assoc]
    exact congrArg (Program.note _) (hassoc _ _ _ _)

theorem addProfile_begins {new : NewProfile} (hvalid : Ruled.check new = .ok ()) :
    addProfile .background new = .call (.begin .background) fun
      | .ok h => .note (.unitOpened h.id) (afterBegin new h)
      | .error e => .fail e := by
  rw [addProfile_beginsIn rfl hvalid]
  congr
  funext answer
  cases answer <;> rfl

/-- A request in the context. -/
def AsksIn (ctx : Ctx) (c : Call) : Prop :=
  ∃ request, c = .ask ctx request

theorem asksIn_grantRole (ctx : Ctx) (userId : Uuid) (role : Role) (scope : Scope) :
    (grantRole ctx userId role scope).Makes (AsksIn ctx) :=
  makes_checked (.createGrant { userId, role, scope }) ⟨_, rfl⟩

theorem makes_provisionIn {sort : Call → Prop} {inside : Ctx} {new : NewProfile}
    (hgrant : ∀ grant, sort (.ask inside (.createGrant grant)))
    (hprofile : ∀ id, sort (.ask inside (.createProfile id new))) :
    (provisionIn inside new).Makes sort := by
  unfold provisionIn
  apply makes_bind (makes_annotate (makes_checked (.createGrant _) (hgrant _)))
  intro grant
  exact makes_annotate (makes_request (hprofile grant.id))

theorem asksIn_provisionIn (inside : Ctx) (new : NewProfile) :
    (provisionIn inside new).Makes (AsksIn inside) :=
  makes_provisionIn (fun _ => ⟨_, rfl⟩) fun _ => ⟨_, rfl⟩

theorem onlyAsks_provisionIn (inside : Ctx) (new : NewProfile) :
    (provisionIn inside new).attempt.OnlyAsks := by
  apply (makes_attempt (asksIn_provisionIn inside new)).onlyAsks
  rintro c ⟨request, rfl⟩
  exact ⟨inside, request, rfl⟩

theorem untilClosed_endUnit {α β : Type} {closed : Program β → Store → Prop}
    {t before : Tables} {id : Uuid} {outcome : Result α} {f : α → Program β}
    (hok : ∀ a, outcome = .ok a → ∀ event, closed (.note event (f a)) ⟨t, none⟩)
    (herror : ∀ e, outcome = .error e →
      ∀ event, closed (.note event (.fail e)) ⟨before, none⟩) :
    (endUnit ⟨id, .memory 0⟩ outcome >>= f).UntilClosed closed ⟨t, some ⟨id, before⟩⟩ := by
  have hunit : (⟨t, some ⟨id, before⟩⟩ : Store).unitOf ⟨id, .memory 0⟩ = .ok ⟨id, before⟩ :=
    Store.unitOf_own rfl rfl
  cases outcome with
  | ok a =>
    intro tick
    rw [Store.answer_commit hunit]
    exact hok a rfl _
  | error e =>
    intro tick
    rw [Store.answer_rollback hunit]
    exact herror e rfl _

/-- How the unit of a client can close: rolled back with the tables of its beginning, or
committed with both rows. -/
theorem untilClosed_afterBeginIn {t : Tables} {ctx : Ctx} {new : NewProfile} {id : Uuid}
    {closed : Program Profile → Store → Prop}
    (hundone : ∀ e tables,
      Provisioning (ctx.withHandle ⟨id, .memory 0⟩) t new (.error e) tables →
      ∀ event, closed (.note event (.fail e)) ⟨t, none⟩)
    (hstored : ∀ first second, Memory.checkGrant t (new.grant first) = .ok () →
      Memory.checkProfile second.order (t.addGrant (new.grant first))
        (new.row first.id second) = .ok () →
      ∀ event event', closed
        (.note event (.note event' (profileById ctx new.kind second.id)))
        ⟨(t.addGrant (new.grant first)).addProfile (new.row first.id second), none⟩) :
    (afterBeginIn ctx new ⟨id, .memory 0⟩).UntilClosed closed ⟨t, some ⟨id, t⟩⟩ := by
  unfold afterBeginIn
  apply untilClosed_bind (onlyAsks_provisionIn _ _) rfl
  rw [always_attempt]
  apply always_provisionIn rfl (Store.unitOf_own rfl rfl)
  intro result tables hends
  refine ⟨result, _, rfl, ?_⟩
  cases result with
  | error e =>
    refine untilClosed_endUnit ?_ fun cause hcause => ?_
    · intro row hrow
      cases hrow
    · cases hcause
      exact hundone e tables hends
  | ok row =>
    cases hends with
    | stored first second hgrant hprofile =>
      refine untilClosed_endUnit (fun row hrow event => ?_) ?_
      · cases hrow
        exact hstored first second hgrant hprofile event _
      · intro cause hcause
        cases hcause

/-- Without a deadline the unit is undone only because a check refuses a row. -/
theorem untilClosed_afterBegin {t : Tables} {new : NewProfile} {id : Uuid}
    {closed : Program Profile → Store → Prop}
    (hgrantRefused : ∀ first e, Memory.checkGrant t (new.grant first) = .error e →
      ∀ event, closed (.note event
        (.fail (.context ("assign " ++ new.kind.role.word ++ " role") e))) ⟨t, none⟩)
    (hprofileRefused : ∀ first second e,
      Memory.checkGrant t (new.grant first) = .ok () →
      Memory.checkProfile second.order (t.addGrant (new.grant first))
        (new.row first.id second) = .error e →
      ∀ event, closed (.note event (.fail (.context ("create " ++ new.kind.entity) e)))
        ⟨t, none⟩)
    (hstored : ∀ first second, Memory.checkGrant t (new.grant first) = .ok () →
      Memory.checkProfile second.order (t.addGrant (new.grant first))
        (new.row first.id second) = .ok () →
      ∀ event event', closed
        (.note event (.note event' (profileById .background new.kind second.id)))
        ⟨(t.addGrant (new.grant first)).addProfile (new.row first.id second), none⟩) :
    (afterBegin new ⟨id, .memory 0⟩).UntilClosed closed ⟨t, some ⟨id, t⟩⟩ := by
  refine untilClosed_afterBeginIn ?_ hstored
  intro e tables hends
  cases hends with
  | grantLate hdeadline => cases hdeadline
  | profileLate first hgrant hdeadline => cases hdeadline
  | grantRefused first e hgrant => exact hgrantRefused first e hgrant
  | profileRefused first second e hgrant hprofile =>
    exact hprofileRefused first second e hgrant hprofile

/-! ## Reading back -/

/-- On a store without an open unit, the program ends with a value and has changed
nothing. -/
def Program.Yields {α : Type} (p : Program α) (t : Tables) (wanted : α → Prop) : Prop :=
  p.Always (fun reply => ∃ a, reply = .ended (.ok a) ⟨t, none⟩ ∧ wanted a) ⟨t, none⟩

theorem yields_bind {α β : Type} {p : Program α} {f : α → Program β} {t : Tables}
    (middle : α → Prop) {wanted : β → Prop} (hp : p.Yields t middle)
    (hf : ∀ a, middle a → (f a).Yields t wanted) : (p >>= f).Yields t wanted := by
  unfold Yields
  rw [always_bind]
  apply hp.mono
  rintro _ ⟨a, rfl, ha⟩
  exact hf a ha

theorem yields_ask {t : Tables} {request : Request} {answer : request.Answer}
    {wanted : request.Answer → Prop}
    (hserved : ∀ stamp, t.serve Memory.policy stamp request = (.ok answer, t))
    (hanswer : wanted answer) : (ask .background request).Yields t wanted := by
  apply always_ask.mpr
  intro tick
  rw [Store.answer_ask_plain rfl rfl rfl]
  refine ⟨answer, ?_, hanswer⟩
  simp [Store.perform, hserved]

theorem composable_yields (t : Tables) :
    Composable .background fun _ p => p.Yields t fun _ => True where
  value a := ⟨a, rfl, trivial⟩
  event _ := ⟨(), rfl, trivial⟩
  lookup request h := by
    obtain ⟨answer, hserved⟩ := t.serve_lookup_ok h
    exact yields_ask hserved trivial
  bind hp hf := yields_bind _ hp fun a _ => hf a

theorem toProfileRow_hydrate (related : Related) (p : Profile) :
    (Hydratable.hydrate related p).toProfileRow = p.toProfileRow := by
  simp only [Hydratable.hydrate]
  cases p.kind.role.scopeKind <;> rfl

theorem yields_profileById {t : Tables} {kind : ProfileKind} {id : Uuid} {row : ProfileRow}
    (hrow : t.profile? kind id = some row) :
    (profileById .background kind id).Yields t fun p => p.toProfileRow = row := by
  unfold profileById
  apply yields_bind (· = some row) (yields_ask (fun stamp => rfl) hrow)
  rintro _ rfl
  change (hydrateOne .background row.bare).Yields t _
  apply yields_bind _ ((composable_yields t).resolve _ _)
  intro related _
  exact ⟨_, rfl, toProfileRow_hydrate related row.bare⟩

end Registrar
