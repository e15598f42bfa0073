import Registrar.Startup

/-!
# The deadline of a request

A request has a deadline that lies exactly as far ahead as the settings say, provided that
the clock can show it (`requestContext?_exact`).  The check of the settings asks only for a
timeout other than zero, so it accepts timeouts that no clock can show
(`timeout_beyond_clock`).
-/

namespace Registrar

namespace Instant

/-- The seconds that the clock shows. -/
def seconds (t : Instant) : Int :=
  t.nanos / nanosPerSecond

def maxSeconds : Int := 9223372036854775807

def addSeconds (t : Instant) (seconds : Nat) : Instant :=
  ⟨t.nanos + seconds * nanosPerSecond⟩

theorem seconds_addSeconds (t : Instant) (seconds : Nat) :
    (t.addSeconds seconds).seconds = t.seconds + seconds := by
  have hunit : nanosPerSecond ≠ 0 := by decide
  exact Int.add_mul_ediv_right _ _ hunit

/-- Time only moves forward, so a later instant can only be too late for the clock. -/
theorem inRange_addSeconds_iff {t : Instant} (ht : t.InRange) (seconds : Nat) :
    (t.addSeconds seconds).InRange ↔ t.seconds + seconds ≤ maxSeconds := by
  have hshown : (t.addSeconds seconds).nanos / nanosPerSecond = t.seconds + seconds :=
    t.seconds_addSeconds seconds
  have hleast : -9223372036854775808 ≤ t.seconds := ht.1
  unfold InRange maxSeconds
  rw [hshown]
  omega

end Instant

theorem CoreSettings.requestContext?_eq (c : CoreSettings) (now : Instant) :
    c.requestContext? now =
      if (now.addSeconds c.requestTimeout).InRange then
        some { deadline := some (now.addSeconds c.requestTimeout) }
      else none := by
  have hlater : (⟨now.nanos + ((c.requestTimeout * 1000000000 : Nat) : Int)⟩ : Instant) =
      now.addSeconds c.requestTimeout := by
    simp [Instant.addSeconds, Instant.nanosPerSecond]
  unfold requestContext? Ctx.withTimeout? Instant.add?
  simp only [hlater]
  split <;> rfl

/-! ## What the check lets through -/

theorem Settings.check_eq_ok_iff {s : Settings} :
    s.check = .ok () ↔
      s.database.check = .ok () ∧ s.logger.check = .ok () ∧ s.core.requestTimeout ≠ 0 := by
  have hcore : s.core.check = .ok () ↔ s.core.requestTimeout ≠ 0 := by
    unfold CoreSettings.check
    split
    next hzero => simp [hzero]
    next hother => simp [hother]
  have hbind : s.check = s.database.check.bind fun _ => s.logger.check.bind fun _ =>
      s.core.check := rfl
  rw [hbind, ← hcore]
  cases s.database.check with
  | error e => simp [Except.bind]
  | ok u =>
    cases s.logger.check with
    | error e => simp [Except.bind]
    | ok u => simp [Except.bind]

/-- In settings that have been accepted, any timeout but zero is accepted.  With it a request
is given a context exactly if the clock can still count the seconds of the timeout, and then
the context carries no unit of work and has its deadline exactly so many seconds after now. -/
theorem requestContext?_exact {s : Settings} (hvalid : s.check = .ok ()) {timeout : Nat}
    (htimeout : timeout ≠ 0) {now : Instant} (hnow : now.InRange) :
    { s with core.requestTimeout := timeout }.check = .ok () ∧
      ∀ ctx, { s with core.requestTimeout := timeout }.core.requestContext? now = some ctx ↔
        now.seconds + timeout ≤ Instant.maxSeconds ∧
          ctx = { deadline := some (now.addSeconds timeout) } := by
  obtain ⟨hdatabase, hlogger, _⟩ := Settings.check_eq_ok_iff.mp hvalid
  refine ⟨Settings.check_eq_ok_iff.mpr ⟨hdatabase, hlogger, htimeout⟩, fun ctx => ?_⟩
  rw [CoreSettings.requestContext?_eq, ← Instant.inRange_addSeconds_iff hnow]
  split
  next hshown => simp [hshown, eq_comm]
  next hbeyond => simp [hbeyond]

def localSettings : Settings :=
  { database.url := "postgres://localhost/campus" }

theorem check_localSettings : localSettings.check = .ok () := by
  rfl

/-- A tenth of a second after the clock has begun, with half a minute for a request. -/
theorem requestContext?_exact_localSettings :
    (localSettings.check = .ok () ∧ 30 ≠ 0 ∧ (⟨100000000⟩ : Instant).InRange) ∧
      localSettings.core.requestContext? ⟨100000000⟩ =
        some { deadline := some ⟨30100000000⟩ } := by
  refine ⟨⟨check_localSettings, by decide, by decide⟩, ?_⟩
  have hhalf : 30 ≠ 0 := by decide
  have hnow : (⟨100000000⟩ : Instant).InRange := by decide
  exact ((requestContext?_exact check_localSettings hhalf hnow).2 _).mpr ⟨by decide, rfl⟩

/-- The greatest timeout that settings can hold is accepted, but no request can be given it,
even when the clock has only begun. -/
theorem timeout_beyond_clock :
    { localSettings with core.requestTimeout := ValueReader.maxNat64 }.check = .ok () ∧
      (⟨0⟩ : Instant).InRange ∧
      { localSettings with core.requestTimeout := ValueReader.maxNat64 }.core.requestContext?
        ⟨0⟩ = none :=
  ⟨rfl, by decide, by decide⟩

end Registrar
