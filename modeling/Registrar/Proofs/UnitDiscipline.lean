import Registrar.Proofs.Client
import Registrar.Proofs.Conversation

/-!
# How services use a unit of work

Provisioning a profile and assigning a guardian each do their steps in a unit of work of their
own.  The storage may answer every call as it likes, also the opening and the closing of the
unit; still a unit that was opened is closed exactly once, after its steps and as they ended,
and no call goes astray (`units_well_used`).
-/

namespace Registrar

open Program Service

/-! ## Steps -/

/-- A call fails too if it looks for a profile that has to be there and is not. -/
def Call.missing? : (c : Call) → c.Answer → Option AppError
  | .ask _ (.profileById kind id), none => some (.notFound kind.entity "id" id.toText)
  | _, _ => none

/-- Why a step has failed, if it has. -/
def Answered.failure? (x : Answered) : Option AppError :=
  match x.answer with
  | .ok a => x.call.missing? a
  | .error e => some e

section Steps

variable {α β : Type}

/-- Steps that come to a value if they all succeed, and else to the failure of the last one,
which may be annotated. -/
inductive StopAtFailure : List Answered → Result α → Prop
  | value (steps : List Answered) (a : α) (hall : ∀ x ∈ steps, x.failure? = none) :
    StopAtFailure steps (.ok a)
  | failure (before : List Answered) (last : Answered) (cause e : AppError)
      (hall : ∀ x ∈ before, x.failure? = none) (hlast : last.failure? = some cause)
      (hcause : e.root = cause.root) : StopAtFailure (before ++ [last]) (.error e)

theorem StopAtFailure.after {first rest : List Answered} {result : Result α}
    (hfirst : ∀ x ∈ first, x.failure? = none) (hrest : StopAtFailure rest result) :
    StopAtFailure (first ++ rest) result := by
  cases hrest with
  | value steps a hall =>
    refine .value _ a fun x hx => ?_
    rcases List.mem_append.mp hx with hbefore | hafter
    · exact hfirst x hbefore
    · exact hall x hafter
  | failure before last cause e hall hlast hcause =>
    rw [← List.append_assoc]
    refine .failure _ last cause e (fun x hx => ?_) hlast hcause
    rcases List.mem_append.mp hx with hbefore | hafter
    · exact hfirst x hbefore
    · exact hall x hafter

namespace Program

/-- The program ends with its first failure. -/
def Stops (p : Program α) : Prop :=
  ∀ trace result, p.Converses trace result → StopAtFailure trace result

theorem stops_bind {p : Program α} {f : α → Program β} (hp : p.Stops)
    (hf : ∀ a, (f a).Stops) : (p >>= f).Stops := by
  intro trace result hconverses
  rcases converses_bind.mp hconverses with ⟨e, rfl, hfirst⟩ | ⟨a, first, rest, rfl, hfirst, hrest⟩
  · cases hp trace _ hfirst with
    | failure before last cause e hall hlast hcause =>
      exact .failure before last cause e hall hlast hcause
  · cases hp first _ hfirst with
    | value first a hall => exact (hf a rest result hrest).after hall

theorem stops_annotate {p : Program α} {step : String} (hp : p.Stops) :
    (p.annotate step).Stops := by
  intro trace result hconverses
  obtain ⟨outcome, rfl, hfirst⟩ := converses_annotate.mp hconverses
  cases hp trace outcome hfirst with
  | value _ a hall => exact .value trace a hall
  | failure before last cause e hall hlast hcause =>
    exact .failure before last cause (.context step e) hall hlast hcause

theorem stops_value (a : α) : (done a : Program α).Stops := by
  rintro _ _ ⟨rfl, rfl⟩
  exact .value [] a fun _ hx => nomatch hx

theorem stops_ask {ctx : Ctx} {request : Request}
    (hfound : ∀ a, (Call.ask ctx request).missing? a = none) : (ask ctx request).Stops := by
  intro trace result hconverses
  rw [converses_request.mp hconverses]
  cases result with
  | ok a =>
    refine .value _ a fun x hx => ?_
    rw [List.mem_singleton.mp hx]
    exact hfound a
  | error e => exact .failure [] _ e e (fun _ hx => nomatch hx) rfl rfl

end Program

/-- A profile that has to be there is looked for in one step. -/
theorem stops_found {ctx : Ctx} {kind : ProfileKind} {id : Uuid}
    {f : ProfileRow → Program β} (hf : ∀ row, (f row).Stops) :
    (do
      let row ← found kind.entity id (← ask ctx (.profileById kind id))
      f row : Program β).Stops := by
  intro trace result hconverses
  rcases converses_bind.mp hconverses with
    ⟨e, rfl, hlookup⟩ | ⟨row?, first, rest, rfl, hlookup, hrest⟩
  · rw [converses_request.mp hlookup]
    exact .failure [] _ e e (fun _ hx => nomatch hx) rfl rfl
  · rw [converses_request.mp hlookup]
    cases row? with
    | none =>
      obtain ⟨rfl, rfl⟩ := hrest
      exact .failure [] _ _ _ (fun _ hx => nomatch hx) rfl rfl
    | some row =>
      refine (hf row rest result hrest).after fun x hx => ?_
      rw [List.mem_singleton.mp hx]
      rfl

end Steps

theorem stops_grantRole {ctx : Ctx} {userId : Uuid} {role : Role} {scope : Scope}
    (hscope : checkScope role scope = .ok ()) : (grantRole ctx userId role scope).Stops := by
  unfold grantRole
  rw [hscope]
  refine stops_bind (stops_value ()) fun _ => stops_bind (stops_ask fun _ => rfl) fun row => ?_
  exact stops_value row

theorem stops_provisionIn (inside : Ctx) (new : NewProfile) : (provisionIn inside new).Stops := by
  unfold provisionIn
  refine stops_bind (stops_annotate (stops_grantRole (checkScope_scope new))) fun grant => ?_
  exact stops_annotate (stops_ask fun _ => rfl)

theorem stops_assignIn (inside : Ctx) (new : NewGuardian) : (assignIn inside new).Stops := by
  unfold assignIn
  refine stops_found fun student => ?_
  refine stops_bind (stops_annotate (stops_grantRole rfl)) fun grant => ?_
  exact stops_annotate (stops_ask fun _ => rfl)

theorem makes_found {α : Type} {sort : Call → Prop} (entity : String) (id : Uuid)
    (row : Option α) : (found entity id row).Makes sort := by
  cases row <;> trivial

theorem makes_assignIn {sort : Call → Prop} {inside : Ctx} {new : NewGuardian}
    (hstudent : sort (.ask inside (.profileById .student new.studentId)))
    (hgrant : ∀ grant, sort (.ask inside (.createGrant grant)))
    (hlink : ∀ id, sort (.ask inside (.createGuardian id new))) :
    (assignIn inside new).Makes sort := by
  unfold assignIn
  refine makes_bind (makes_request hstudent) fun row => makes_bind (makes_found _ _ row) ?_
  intro student
  apply makes_bind (makes_annotate (makes_checked (.createGrant _) (hgrant _)))
  intro grant
  exact makes_annotate (makes_request (hlink grant.id))

theorem asksIn_assignIn (inside : Ctx) (new : NewGuardian) :
    (assignIn inside new).Makes (AsksIn inside) :=
  makes_assignIn ⟨_, rfl⟩ (fun _ => ⟨_, rfl⟩) fun _ => ⟨_, rfl⟩

namespace Program

variable {α : Type} {trace : List Answered} {result : Result α}

theorem Makes.converses {sort : Call → Prop} {p : Program α} (h : p.Makes sort)
    (hconverses : p.Converses trace result) : ∀ x ∈ trace, sort x.call := by
  induction p generalizing trace with
  | done a =>
    rw [hconverses.1]
    exact fun _ hx => nomatch hx
  | fail e =>
    rw [hconverses.1]
    exact fun _ hx => nomatch hx
  | note event next ih => exact ih h hconverses
  | call c next ih =>
    obtain ⟨answer, rest, rfl, hrest⟩ := hconverses
    intro x hx
    rcases List.mem_cons.mp hx with rfl | hlater
    · exact h.1
    · exact ih answer (h.2 answer) hrest x hlater

/-- A look-up in the context. -/
def LooksUpIn (ctx : Ctx) (c : Call) : Prop :=
  ∃ request, request.isLookup ∧ c = .ask ctx request

theorem ReadsOnly.makes {ctx : Ctx} {p : Program α} (h : p.ReadsOnly ctx) :
    p.Makes (LooksUpIn ctx) := by
  induction p with
  | done a => trivial
  | fail e => trivial
  | note event next ih => exact ih h
  | call c next ih =>
    cases c with
    | begin _ | commit _ | rollback _ => exact h.elim
    | ask ctx' request =>
      obtain ⟨rfl, hlookup, hnext⟩ := h
      exact ⟨⟨request, hlookup, rfl⟩, fun answer => ih answer (hnext answer)⟩

end Program

/-! ## The unit -/

section Unit

variable {α β : Type}

/-- The steps in a unit that was opened for a caller: all of them are requests with the handle
of the unit and the deadline of the caller, and they come to the outcome as soon as one of them
fails, or else after the last. -/
structure UnitSteps (ctx : Ctx) (work : Ctx → Program α) (h : Handle) (steps : List Answered)
    (outcome : Result α) : Prop where
  inside : ∀ x ∈ steps,
    ∃ request, x.call = .ask { handle := some h, deadline := ctx.deadline } request
  comes : (work { handle := some h, deadline := ctx.deadline }).Converses steps outcome
  stops : StopAtFailure steps outcome

/-- What is exchanged for a unit of work, from its opening on, and what is returned.  A unit
that cannot be opened ends everything; one that was opened is closed once, by a commit if the
steps have come to a value and by a rollback if they have not.  Only a commit that succeeds lets
the service finish. -/
inductive UsesUnit (ctx : Ctx) (work : Ctx → Program α)
    (finish : α → List Answered → Result β → Prop) : List Answered → Result β → Prop
  | unopened (e : AppError) : UsesUnit ctx work finish [⟨.begin ctx, .error e⟩] (.error e)
  | committed (h : Handle) (steps rest : List Answered) (a : α) (result : Result β)
      (hsteps : UnitSteps ctx work h steps (.ok a)) (hfinish : finish a rest result) :
    UsesUnit ctx work finish
      (⟨.begin ctx, .ok h⟩ :: (steps ++ ⟨.commit h, .ok ()⟩ :: rest)) result
  | commitFailed (h : Handle) (steps : List Answered) (a : α) (failure : AppError)
      (hsteps : UnitSteps ctx work h steps (.ok a)) :
    UsesUnit ctx work finish (⟨.begin ctx, .ok h⟩ :: (steps ++ [⟨.commit h, .error failure⟩]))
      (.error (.unitOfWork .commit failure))
  | rolledBack (h : Handle) (steps : List Answered) (cause : AppError)
      (hsteps : UnitSteps ctx work h steps (.error cause)) :
    UsesUnit ctx work finish (⟨.begin ctx, .ok h⟩ :: (steps ++ [⟨.rollback h, .ok ()⟩]))
      (.error cause)
  | rollbackFailed (h : Handle) (steps : List Answered) (cause failure : AppError)
      (hsteps : UnitSteps ctx work h steps (.error cause)) :
    UsesUnit ctx work finish (⟨.begin ctx, .ok h⟩ :: (steps ++ [⟨.rollback h, .error failure⟩]))
      (.error (.unitOfWorkAfter .rollback failure cause))

/-- A service keeps to its unit: it calls nothing for an invalid input or inside another unit,
and otherwise uses a unit of its own. -/
structure KeepsToUnit (ctx : Ctx) (valid : Result Unit) (work : Ctx → Program α)
    (finish : α → List Answered → Result β → Prop) (trace : List Answered)
    (result : Result β) : Prop where
  invalid : ∀ e, valid = .error e → trace = [] ∧ result = .error e
  nested : valid = .ok () → ∀ outer, ctx.handle = some outer →
    trace = [] ∧ result = .error (.nestedUnitOfWork outer.id)
  used : valid = .ok () → ctx.handle = none → UsesUnit ctx work finish trace result

variable {ctx : Ctx} {work : Ctx → Program α} {finish : α → List Answered → Result β → Prop}
  {trace : List Answered} {result : Result β}

theorem converses_endUnit {h : Handle} {outcome closed : Result α}
    (hconverses : (endUnit h outcome).Converses trace closed) :
    match outcome with
    | .ok a =>
      (trace = [⟨.commit h, .ok ()⟩] ∧ closed = .ok a) ∨
        ∃ failure, trace = [⟨.commit h, .error failure⟩] ∧
          closed = .error (.unitOfWork .commit failure)
    | .error cause =>
      (trace = [⟨.rollback h, .ok ()⟩] ∧ closed = .error cause) ∨
        ∃ failure, trace = [⟨.rollback h, .error failure⟩] ∧
          closed = .error (.unitOfWorkAfter .rollback failure cause) := by
  cases outcome with
  | ok a =>
    obtain ⟨answer, rest, rfl, hrest⟩ := hconverses
    cases answer with
    | ok u =>
      obtain ⟨rfl, rfl⟩ := hrest
      exact .inl ⟨rfl, rfl⟩
    | error failure =>
      obtain ⟨rfl, rfl⟩ := hrest
      exact .inr ⟨failure, rfl, rfl⟩
  | error cause =>
    obtain ⟨answer, rest, rfl, hrest⟩ := hconverses
    cases answer with
    | ok u =>
      obtain ⟨rfl, rfl⟩ := hrest
      exact .inl ⟨rfl, rfl⟩
    | error failure =>
      obtain ⟨rfl, rfl⟩ := hrest
      exact .inr ⟨failure, rfl, rfl⟩

/-- What is exchanged for a unit up to its closing. -/
theorem converses_inUnit {closed : Result α} (hplain : ctx.handle = none)
    (hconverses : (inUnit ctx work).Converses trace closed) :
    (∃ e, trace = [⟨.begin ctx, .error e⟩] ∧ closed = .error e) ∨
      ∃ h steps last outcome, trace = ⟨.begin ctx, .ok h⟩ :: (steps ++ last) ∧
        (work { handle := some h, deadline := ctx.deadline }).Converses steps outcome ∧
        (endUnit h outcome).Converses last closed := by
  unfold inUnit beginUnit at hconverses
  rw [hplain] at hconverses
  obtain ⟨answer, rest, rfl, hrest⟩ := hconverses
  cases answer with
  | error e =>
    obtain ⟨rfl, rfl⟩ := hrest
    exact .inl ⟨e, rfl, rfl⟩
  | ok h =>
    right
    have hinside : ((work { handle := some h, deadline := ctx.deadline }).attempt >>=
        fun outcome => endUnit h outcome).Converses rest closed := hrest
    rcases converses_bind.mp hinside with ⟨e, rfl, hwork⟩ | ⟨outcome, steps, last, rfl, hwork, hend⟩
    · obtain ⟨outcome, herror, _⟩ := converses_attempt.mp hwork
      cases herror
    · obtain ⟨_, hok, hsteps⟩ := converses_attempt.mp hwork
      cases hok
      exact ⟨h, steps, last, outcome, rfl, hsteps, hend⟩

theorem keepsToUnit_of_converses {valid : Result Unit} {after : α → Program β}
    (hinside : ∀ inside, (work inside).Makes (AsksIn inside))
    (hstops : ∀ inside, (work inside).Stops)
    (hafter : ∀ a rest result, (after a).Converses rest result → finish a rest result)
    (hconverses : (do
      ofResult valid
      let row ← inUnit ctx work
      after row : Program β).Converses trace result) :
    KeepsToUnit ctx valid work finish trace result := by
  refine ⟨?_, ?_, ?_⟩
  · rintro e rfl
    exact hconverses
  · rintro rfl outer hnested
    unfold inUnit beginUnit at hconverses
    rw [hnested] at hconverses
    exact hconverses
  · rintro rfl hplain
    have hservice : (inUnit ctx work >>= after).Converses trace result := hconverses
    have hsteps : ∀ h steps outcome,
        (work { handle := some h, deadline := ctx.deadline }).Converses steps outcome →
          UnitSteps ctx work h steps outcome := fun h steps outcome hwork =>
      ⟨(hinside _).converses hwork, hwork, hstops _ _ _ hwork⟩
    rcases converses_bind.mp hservice with
      ⟨e, rfl, hunit⟩ | ⟨a, first, rest, rfl, hunit, hrest⟩
    · rcases converses_inUnit hplain hunit with
        ⟨e', rfl, he⟩ | ⟨h, steps, last, outcome, rfl, hwork, hend⟩
      · cases he
        exact .unopened e
      · have hclosed := converses_endUnit hend
        cases outcome with
        | ok a =>
          rcases hclosed with ⟨_, hok⟩ | ⟨failure, rfl, he⟩
          · cases hok
          · cases he
            exact .commitFailed h steps a failure (hsteps h steps _ hwork)
        | error cause =>
          rcases hclosed with ⟨rfl, he⟩ | ⟨failure, rfl, he⟩
          · cases he
            exact .rolledBack h steps e (hsteps h steps _ hwork)
          · cases he
            exact .rollbackFailed h steps cause failure (hsteps h steps _ hwork)
    · rcases converses_inUnit hplain hunit with
        ⟨e', _, he⟩ | ⟨h, steps, last, outcome, rfl, hwork, hend⟩
      · cases he
      · have hclosed := converses_endUnit hend
        cases outcome with
        | error cause =>
          rcases hclosed with ⟨_, he⟩ | ⟨_, _, he⟩
          · cases he
          · cases he
        | ok a' =>
          rcases hclosed with ⟨rfl, hok⟩ | ⟨_, _, he⟩
          · cases hok
            rw [List.cons_append, List.append_assoc]
            have hinside := hsteps h steps _ hwork
            exact .committed h steps rest a result hinside (hafter a rest result hrest)
          · cases he

end Unit

/-- A new profile is returned as it was stored, without another call. -/
def ReturnsStored {α : Type} (a : α) (trace : List Answered) (result : Result α) : Prop :=
  trace = [] ∧ result = .ok a

/-- A new link is looked up again in the context of the caller, which is no longer in the unit. -/
def ReadsLinkBack (ctx : Ctx) (row : GuardianRow) (trace : List Answered)
    (result : Result GuardianLink) : Prop :=
  (guardianById ctx row.id).Converses trace result ∧ ∀ x ∈ trace, LooksUpIn ctx x.call

theorem keepsToUnit_provision {ctx : Ctx} {new : NewProfile} {trace : List Answered}
    {result : Result ProfileRow} (hconverses : (provision ctx new).Converses trace result) :
    KeepsToUnit ctx (Ruled.check new) (fun inside => provisionIn inside new) ReturnsStored trace
      result := by
  refine keepsToUnit_of_converses (fun inside => asksIn_provisionIn inside new)
    (fun inside => stops_provisionIn inside new) (fun row rest result hafter => ?_) hconverses
  exact hafter

theorem keepsToUnit_assignGuardian {ctx : Ctx} {new : NewGuardian} {trace : List Answered}
    {result : Result GuardianLink} (hconverses : (assignGuardian ctx new).Converses trace result) :
    KeepsToUnit ctx (Ruled.check new) (fun inside => assignIn inside new) (ReadsLinkBack ctx) trace
      result := by
  refine keepsToUnit_of_converses (fun inside => asksIn_assignIn inside new)
    (fun inside => stops_assignIn inside new) (fun row rest result hafter => ?_) hconverses
  have hreads : (guardianById ctx row.id).Converses rest result := hafter
  exact ⟨hreads, (readsOnly_guardianById ctx row.id).makes.converses hreads⟩

/-- On every storage, however it answers, provisioning a profile and assigning a guardian keep
to a unit of work of their own. -/
theorem units_well_used {σ : Type} (h : Handler σ) (s : σ) (ctx : Ctx) :
    (∀ new : NewProfile, Recorded
      (KeepsToUnit ctx (Ruled.check new) (fun inside => provisionIn inside new) ReturnsStored)
      ((provision ctx new).run h.recording { state := s })) ∧
    ∀ new : NewGuardian, Recorded
      (KeepsToUnit ctx (Ruled.check new) (fun inside => assignIn inside new) (ReadsLinkBack ctx))
      ((assignGuardian ctx new).run h.recording { state := s }) :=
  ⟨fun _ => recorded_of_converses fun _ _ => keepsToUnit_provision,
    fun _ => recorded_of_converses fun _ _ => keepsToUnit_assignGuardian⟩

end Registrar
