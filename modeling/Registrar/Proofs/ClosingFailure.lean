import Mathlib.Data.List.Infix
import Registrar.Proofs.UnitDiscipline
import Registrar.World

/-!
# Failures of a closing unit

A unit of work is rolled back for an error, and the rollback can fail as well.  The report of
the failed rollback is that of the failure below one message, which quotes the error; of an
error with annotations this is the outermost one alone, so what the services annotate with the
name of a step is told by that name and nothing else (`failedRollback_reported`).
-/

namespace Registrar

open Program Service

/-! ## What a report tells -/

namespace AppError

/-- One of the messages of the report holds the text. -/
def Tells (e : AppError) (text : String) : Prop :=
  ∃ message ∈ e.report, text.toList <:+: message.toList

instance (e : AppError) (text : String) : Decidable (e.Tells text) :=
  inferInstanceAs (Decidable (∃ message ∈ e.report, text.toList <:+: message.toList))

theorem tells_message (e : AppError) : e.Tells e.message :=
  ⟨e.message, List.mem_cons_self, List.infix_rfl⟩

/-- An error that nothing else is told about still tells its cause. -/
theorem tells_root (e : AppError) : e.Tells e.root.message := by
  induction e with
  | context step source ih =>
    obtain ⟨message, hmem, htext⟩ := ih
    exact ⟨message, List.mem_cons_of_mem step hmem, htext⟩
  | _ => exact tells_message _

theorem report_unitOfWorkAfter (closing : Closing) (failure cause : AppError) :
    (unitOfWorkAfter closing failure cause).report =
      ("Unit of work " ++ closing.word ++ " failed while handling: " ++ cause.message) ::
        failure.report := rfl

variable {closing : Closing} {failure cause : AppError}

theorem tells_unitOfWorkAfter {text : String} (h : failure.Tells text) :
    (unitOfWorkAfter closing failure cause).Tells text := by
  obtain ⟨message, hmem, htext⟩ := h
  exact ⟨message, List.mem_cons_of_mem _ hmem, htext⟩

theorem tells_handled : (unitOfWorkAfter closing failure cause).Tells cause.message := by
  have hquoted : cause.message.toList <:+: ("Unit of work " ++ closing.word ++
      " failed while handling: " ++ cause.message).toList := by
    rw [String.toList_append]
    exact (List.suffix_append _ _).isInfix
  unfold Tells
  rw [report_unitOfWorkAfter]
  exact ⟨_, List.mem_cons_self, hquoted⟩

end AppError

/-! ## Errors of the steps -/

/-- The steps of a provisioning, as its errors name them. -/
def ProfileKind.steps (kind : ProfileKind) : List String :=
  ["assign " ++ kind.role.word ++ " role", "create " ++ kind.entity]

def guardianSteps : List String :=
  ["assign guardian role", "create student_guardians"]

theorem error_of_annotate {α : Type} {p : Program α} {step : String} {trace : List Answered}
    {cause : AppError} (h : (p.annotate step).Converses trace (.error cause)) :
    ∃ source, cause = .context step source := by
  obtain ⟨outcome, hresult, -⟩ := converses_annotate.mp h
  cases outcome with
  | ok a => cases hresult
  | error source => exact ⟨source, Except.error.inj hresult⟩

variable {inside : Ctx} {trace : List Answered} {cause : AppError}

theorem message_of_provisionIn {new : NewProfile}
    (h : (provisionIn inside new).Converses trace (.error cause)) :
    cause.message ∈ new.kind.steps := by
  unfold provisionIn at h
  rcases converses_bind.mp h with ⟨e, hresult, hgrant⟩ | ⟨grant, first, rest, -, -, hcreate⟩
  · obtain ⟨source, rfl⟩ := error_of_annotate hgrant
    cases hresult
    exact List.mem_cons_self
  · obtain ⟨source, rfl⟩ := error_of_annotate hcreate
    exact List.mem_cons_of_mem _ List.mem_cons_self

/-- The look-up of the student is no step of its own. -/
theorem message_of_assignIn {new : NewGuardian}
    (h : (assignIn inside new).Converses trace (.error cause)) :
    cause.message ∈ guardianSteps ∨
      ∃ x ∈ trace, x.call = .ask inside (.profileById .student new.studentId) ∧
        x.failure? = some cause := by
  unfold assignIn at h
  rcases converses_bind.mp h with ⟨e, hresult, hlookup⟩ | ⟨row?, first, rest, rfl, hlookup, h⟩
  · cases hresult
    rw [converses_request.mp hlookup]
    exact .inr ⟨_, List.mem_cons_self, rfl, rfl⟩
  · rw [converses_request.mp hlookup]
    cases row? with
    | none =>
      obtain ⟨-, hresult⟩ := h
      cases hresult
      exact .inr ⟨_, List.mem_cons_self, rfl, rfl⟩
    | some student =>
      left
      have h : ((grantRole inside new.userId .guardian
          (Scope.school student.scopeId)).annotate "assign guardian role" >>= fun grant =>
            (ask inside (.createGuardian grant.id new)).annotate
              "create student_guardians").Converses rest (.error cause) := h
      rcases converses_bind.mp h with ⟨e, hresult, hgrant⟩ | ⟨grant, before, last, -, -, hcreate⟩
      · obtain ⟨source, rfl⟩ := error_of_annotate hgrant
        cases hresult
        exact List.mem_cons_self
      · obtain ⟨source, rfl⟩ := error_of_annotate hcreate
        exact List.mem_cons_of_mem _ List.mem_cons_self

/-! ## Units that fail to roll back -/

section Unit

variable {α β : Type} {ctx : Ctx} {work : Ctx → Program α}
  {finish : α → List Answered → Result β → Prop} {result : Result β} {handle : Handle}
  {failure : AppError}

/-- A rollback is none of the steps. -/
theorem UnitSteps.rollback_mem {h : Handle} {steps last : List Answered} {outcome : Result α}
    (hsteps : UnitSteps ctx work h steps outcome)
    (hmem : ⟨.rollback handle, .error failure⟩ ∈ ⟨.begin ctx, .ok h⟩ :: (steps ++ last)) :
    ⟨.rollback handle, .error failure⟩ ∈ last := by
  rcases List.mem_cons.mp hmem with heq | hmem
  · cases heq
  · rcases List.mem_append.mp hmem with hstep | hlast
    · obtain ⟨request, hcall⟩ := hsteps.inside _ hstep
      cases hcall
    · exact hlast

theorem UsesUnit.of_failedRollback (h : UsesUnit ctx work finish trace result)
    (hfinish : ∀ a rest result, finish a rest result → ∀ x ∈ rest, x.call ≠ .rollback handle)
    (hmem : ⟨.rollback handle, .error failure⟩ ∈ trace) :
    ∃ cause steps, UnitSteps ctx work handle steps (.error cause) ∧ steps ⊆ trace ∧
      result = .error (.unitOfWorkAfter .rollback failure cause) := by
  cases h with
  | unopened e => cases List.mem_singleton.mp hmem
  | committed h steps rest a result hsteps hafter =>
    rcases List.mem_cons.mp (hsteps.rollback_mem hmem) with heq | hrest
    · cases heq
    · exact absurd rfl (hfinish a rest _ hafter _ hrest)
  | commitFailed h steps a failed hsteps =>
    cases List.mem_singleton.mp (hsteps.rollback_mem hmem)
  | rolledBack h steps cause hsteps =>
    cases List.mem_singleton.mp (hsteps.rollback_mem hmem)
  | rollbackFailed h steps cause failed hsteps =>
    cases List.mem_singleton.mp (hsteps.rollback_mem hmem)
    refine ⟨cause, steps, hsteps, fun x hx => ?_, rfl⟩
    exact List.mem_cons_of_mem _ (List.mem_append_left _ hx)

theorem KeepsToUnit.usesUnit {valid : Result Unit}
    (h : KeepsToUnit ctx valid work finish trace result) (hcalls : trace ≠ []) :
    UsesUnit ctx work finish trace result := by
  cases hvalid : valid with
  | error e => exact absurd (h.invalid e hvalid).1 hcalls
  | ok u =>
    cases hhandle : ctx.handle with
    | some outer => exact absurd (h.nested hvalid outer hhandle).1 hcalls
    | none => exact h.used hvalid hhandle

end Unit

/-- Where a rollback has failed, the report is that of its failure below one message, which
quotes one of the texts. -/
def QuotesOneOf {α : Type} (texts : List Answered → String → Prop) (trace : List Answered)
    (result : Result α) : Prop :=
  ∀ handle failure, ⟨.rollback handle, .error failure⟩ ∈ trace →
    ∃ told text, result = .error told ∧ texts trace text ∧
      told.report =
        ("Unit of work rollback failed while handling: " ++ text) :: failure.report

/-- The name of a step, or the message of a look-up of the student that failed. -/
def GuardianText (new : NewGuardian) (trace : List Answered) (text : String) : Prop :=
  text ∈ guardianSteps ∨
    ∃ x ∈ trace, ∃ inside cause, x.call = .ask inside (.profileById .student new.studentId) ∧
      x.failure? = some cause ∧ text = cause.message

variable {ctx : Ctx}

theorem quotesOneOf_provision {new : NewProfile} {result : Result ProfileRow}
    (h : (provision ctx new).Converses trace result) :
    QuotesOneOf (fun _ text => text ∈ new.kind.steps) trace result := by
  intro handle failure hmem
  have hunit := (keepsToUnit_provision h).usesUnit (List.ne_nil_of_mem hmem)
  have hfinish : ∀ (row : ProfileRow) rest (result : Result ProfileRow),
      ReturnsStored row rest result → ∀ x ∈ rest, x.call ≠ .rollback handle := by
    rintro row rest result ⟨rfl, -⟩ x hx
    cases hx
  obtain ⟨cause, steps, hsteps, -, rfl⟩ := hunit.of_failedRollback hfinish hmem
  exact ⟨_, cause.message, rfl, message_of_provisionIn hsteps.comes, rfl⟩

theorem quotesOneOf_assignGuardian {new : NewGuardian} {result : Result GuardianLink}
    (h : (assignGuardian ctx new).Converses trace result) :
    QuotesOneOf (GuardianText new) trace result := by
  intro handle failure hmem
  have hunit := (keepsToUnit_assignGuardian h).usesUnit (List.ne_nil_of_mem hmem)
  have hfinish : ∀ (row : GuardianRow) rest (result : Result GuardianLink),
      ReadsLinkBack ctx row rest result → ∀ x ∈ rest, x.call ≠ .rollback handle := by
    rintro row rest result ⟨-, hreads⟩ x hx hcall
    obtain ⟨request, -, hask⟩ := hreads x hx
    cases hcall.symm.trans hask
  obtain ⟨cause, steps, hsteps, hsubset, rfl⟩ := hunit.of_failedRollback hfinish hmem
  refine ⟨_, cause.message, rfl, ?_, rfl⟩
  rcases message_of_assignIn hsteps.comes with hstep | ⟨x, hx, hcall, hfailure⟩
  · exact .inl hstep
  · exact .inr ⟨x, hsubset hx, _, cause, hcall, hfailure, rfl⟩

/-- What a unit reports that cannot be rolled back, on every storage: both failures, the error
that was being handled by its own message; and from the services, by the name of a step. -/
theorem failedRollback_reported {σ α : Type} (h : Handler σ) :
    (∀ s s' handle (cause failure : AppError),
      h.serve s (.rollback handle) = .ended (.error failure) s' →
        ∃ told after,
          (endUnit handle (.error cause : Result α)).run h s = .ended (.error told) after ∧
            told.report =
              ("Unit of work rollback failed while handling: " ++ cause.message) ::
                failure.report ∧
            told.Tells failure.root.message ∧ told.Tells cause.message ∧
            ((∀ step source, cause ≠ .context step source) → told.Tells cause.root.message)) ∧
    (∀ s ctx (new : NewProfile), Recorded
      (QuotesOneOf fun _ text => text ∈ new.kind.steps)
      ((provision ctx new).run h.recording { state := s })) ∧
    ∀ s ctx (new : NewGuardian), Recorded (QuotesOneOf (GuardianText new))
      ((assignGuardian ctx new).run h.recording { state := s }) := by
  refine ⟨fun s s' handle cause failure hserve => ?_, fun s ctx new => ?_, fun s ctx new => ?_⟩
  · have hrun : (endUnit handle (.error cause : Result α)).run h s =
        .ended (.error (.unitOfWorkAfter .rollback failure cause))
          (h.note s' (.rollbackFailed handle.id failure cause)) := by
      simp only [endUnit, rollbackUnit, run, hserve]
    refine ⟨_, _, hrun, rfl, AppError.tells_unitOfWorkAfter failure.tells_root,
      AppError.tells_handled, fun hplain => ?_⟩
    have hroot : cause.root = cause := by
      cases cause with
      | context step source => exact absurd rfl (hplain step source)
      | _ => rfl
    rw [hroot]
    exact AppError.tells_handled
  · exact recorded_of_converses fun _ _ => quotesOneOf_provision
  · exact recorded_of_converses fun _ _ => quotesOneOf_assignGuardian

/-- A director without a user. -/
def strayDirector : NewProfile :=
  ⟨.director, .ofNat 1, .ofNat 2, none, none, none⟩

/-- An empty register, whose rollbacks may fail. -/
def unsteady (fails : Bool) : World where
  backing := .memory .empty
  faults := { rollback := fails }
  supply n := ⟨.ofNat (10 + n), ⟨0⟩, default⟩

def strayReference : AppError :=
  Memory.invalidReference "user_roles" "user_id" (.ofNat 1)

def strayCause : AppError :=
  .context "assign director role" strayReference

def lostConnection : AppError :=
  .internal ["connection lost"]

def openedUnit : Handle :=
  ⟨.ofNat 10, .memory 0⟩

/-- The register within the unit. -/
def unsteadyOpened : World :=
  { unsteady true with backing := .memory { opened := some ⟨.ofNat 10, .empty⟩ } }

theorem failedRollback_reported_unsteady :
    (∃ w, World.handler.serve unsteadyOpened (.rollback openedUnit) =
        .ended (.error lostConnection) w ∧
      ∃ told after, (endUnit openedUnit (.error strayReference : Result ProfileRow)).run
          World.handler unsteadyOpened = .ended (.error told) after ∧
        told.report = ("Unit of work rollback failed while handling: " ++
          strayReference.message) :: lostConnection.report ∧
        told.Tells strayReference.root.message) ∧
    ∃ result record, (provision {} strayDirector).run World.handler.recording
        { state := unsteady true } = .ended result record ∧
      (⟨.rollback openedUnit, .error lostConnection⟩ : Answered) ∈ record.trace ∧
      ∃ told text, result = .error told ∧ text ∈ ProfileKind.director.steps ∧
        told.report = ("Unit of work rollback failed while handling: " ++ text) ::
          lostConnection.report := by
  have hreported := @failedRollback_reported World ProfileRow World.handler
  constructor
  · have hserve : ∃ w, World.handler.serve unsteadyOpened (.rollback openedUnit) =
        .ended (.error lostConnection) w := ⟨_, rfl⟩
    obtain ⟨w, hserve⟩ := hserve
    obtain ⟨told, after, hrun, hreport, -, -, hroot⟩ :=
      hreported.1 unsteadyOpened w openedUnit strayReference lostConnection hserve
    have hplain : ∀ step source, strayReference ≠ .context step source := fun _ _ => nofun
    exact ⟨w, hserve, told, after, hrun, hreport, hroot hplain⟩
  · have hrecorded := hreported.2.1 (unsteady true) {} strayDirector
    obtain ⟨result, record, hrun, hmem⟩ : ∃ result record,
        (provision {} strayDirector).run World.handler.recording { state := unsteady true } =
          .ended result record ∧
        (⟨.rollback openedUnit, .error lostConnection⟩ : Answered) ∈ record.trace :=
      ⟨_, _, rfl, List.Mem.tail _ (List.Mem.tail _ (List.Mem.head _))⟩
    rw [hrun] at hrecorded
    exact ⟨result, record, hrun, hmem, hrecorded openedUnit lostConnection hmem⟩

/-- Without the fault the user is told to be unknown, and with it no longer. -/
theorem failedRollback_hides_cause :
    (∃ after, (unsteady false).run (provision {} strayDirector) =
      .ended (.error strayCause) after) ∧
    ∃ after, (unsteady true).run (provision {} strayDirector) =
        .ended (.error (.unitOfWorkAfter .rollback lostConnection strayCause)) after ∧
      ¬(AppError.unitOfWorkAfter .rollback lostConnection strayCause).Tells
        strayCause.root.message := by
  refine ⟨⟨_, rfl⟩, _, rfl, ?_⟩
  decide +kernel

end Registrar
