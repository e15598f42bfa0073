import Mathlib.Data.List.Basic
import Registrar.Proofs.Crowd
import Registrar.Proofs.UnitOfWork

/-!
# The register without its passwords

Every row of a user is kept with its password hash.  Blotting out all the hashes (`Tables.hide`)
gives tables that answer every call as before, but for the hashes in the answers
(`Call.Unseeing.answer`): no check looks at them, and no other table repeats them.  A program
that passes users on as they are, and does nothing else with their hashes, therefore runs on
the blotted store as it does on the real one (`Program.Unseeing.run`).
-/

namespace Registrar

open Program

/-! ## Tables -/

def User.hide (u : User) : User :=
  { u with passwordHash := "" }

def NewUser.hide (new : NewUser) : NewUser :=
  { new with passwordHash := "" }

namespace Tables

def hide (t : Tables) : Tables :=
  { t with users := t.users.map User.hide }

variable (t : Tables)

theorem user?_hide (id : Uuid) : t.hide.user? id = (t.user? id).map User.hide :=
  List.find?_map ..

theorem teacherShort?_hide (id : Uuid) : t.hide.teacherShort? id = t.teacherShort? id := by
  simp only [teacherShort?, user?_hide, Option.bind_eq_bind, Option.bind_map]
  rfl

theorem studentShort?_hide (id : Uuid) : t.hide.studentShort? id = t.studentShort? id := by
  simp only [studentShort?, user?_hide, Option.bind_eq_bind, Option.bind_map]
  rfl

/-! ### No check looks at a password -/

theorem checkUser_hide (row : User) :
    Memory.checkUser t.hide row.hide = Memory.checkUser t row := by
  have htaken : (t.hide.users.any fun other => other.email == row.hide.email) =
      t.users.any fun other => other.email == row.email := List.any_map
  unfold Memory.checkUser
  rw [htaken]
  rfl

theorem checkGrant_hide (row : RoleGrantRow) :
    Memory.checkGrant t.hide row = Memory.checkGrant t row := by
  simp only [Memory.checkGrant, user?_hide, Option.isSome_map]
  rfl

theorem checkProfile_hide (order : RowOrder) (row : ProfileRow) :
    Memory.checkProfile order t.hide row = Memory.checkProfile order t row := by
  simp only [Memory.checkProfile, user?_hide, Option.isSome_map]
  rfl

theorem checkGuardian_hide (row : GuardianRow) :
    Memory.checkGuardian t.hide row = Memory.checkGuardian t row := by
  simp only [Memory.checkGuardian, user?_hide, Option.isSome_map]
  rfl

end Tables

/-! ## Requests -/

/-- No user is in the answer. -/
def Request.isPlain : Request → Bool
  | .createUser _ | .userById _ | .usersByIds _ | .userByEmail _ => false
  | _ => true

def Call.isPlain : Call → Bool
  | .ask _ request => request.isPlain
  | _ => true

/-- The second request is the first without its password, and `hide` takes the passwords out
of its answers. -/
inductive Request.Unseeing : (r r' : Request) → (r.Answer → r'.Answer) → Prop
  | plain (r : Request) (hplain : r.isPlain) : Unseeing r r id
  | createUser (new : NewUser) : Unseeing (.createUser new) (.createUser new.hide) User.hide
  | userById (id : Uuid) : Unseeing (.userById id) (.userById id) (Option.map User.hide)
  | usersByIds (ids : List Uuid) :
    Unseeing (.usersByIds ids) (.usersByIds ids) (List.map User.hide)
  | userByEmail (email : String) :
    Unseeing (.userByEmail email) (.userByEmail email) (Option.map User.hide)

section Serving

variable {α : Type} {t : Tables} {check : Tables → α → Result Unit} {row : α} {add : α → Tables}

private theorem insertRow_plain {accepted accepted' : Result α} {add' : α → Tables}
    (haccepted : accepted' = accepted) (hadd : ∀ row, add' row = (add row).hide) :
    t.hide.insertRow accepted' add' =
      ((t.insertRow accepted add).1.map id, (t.insertRow accepted add).2.hide) := by
  subst haccepted
  cases accepted' with
  | ok row => exact congrArg (Prod.mk _) (hadd row)
  | error e => rfl

private theorem accept_congr (hcheck : check t.hide row = check t row) :
    Memory.accept check t.hide row = Memory.accept check t row := by
  unfold Memory.accept
  rw [hcheck]

private theorem insertUser_hide (row : User) :
    t.hide.insertRow (Memory.accept Memory.checkUser t.hide row.hide) t.hide.addUser =
      ((t.insertRow (Memory.accept Memory.checkUser t row) t.addUser).1.map User.hide,
        (t.insertRow (Memory.accept Memory.checkUser t row) t.addUser).2.hide) := by
  have hadd : t.hide.addUser row.hide = (t.addUser row).hide := by
    simp [Tables.addUser, Tables.hide]
  unfold Memory.accept
  rw [t.checkUser_hide row]
  cases Memory.checkUser t row with
  | ok u => exact congrArg (Prod.mk _) hadd
  | error e => rfl

/-- Blotted tables answer as the tables do, but for the passwords. -/
theorem Request.Unseeing.serve {r r' : Request} {hide : r.Answer → r'.Answer}
    (h : r.Unseeing r' hide) (t : Tables) (stamp : Stamp) :
    t.hide.serve Memory.policy stamp r' =
      ((t.serve Memory.policy stamp r).1.map hide, (t.serve Memory.policy stamp r).2.hide) := by
  cases h with
  | createUser new => exact insertUser_hide (new.row stamp)
  | userById id => simp [Tables.serve, t.user?_hide, Except.map]
  | usersByIds ids =>
    have hfound : ids.filterMap t.hide.user? = (ids.filterMap t.user?).map User.hide := by
      rw [List.map_filterMap]
      exact List.filterMap_congr fun id _ => t.user?_hide id
    exact congrArg (fun users => (Except.ok users, t.hide)) hfound
  | userByEmail email =>
    have hfound : t.hide.users.find? (·.email == email) =
        (t.users.find? (·.email == email)).map User.hide := List.find?_map ..
    exact congrArg (fun user => (Except.ok user, t.hide)) hfound
  | plain _ hplain =>
    cases r with
    | createUser | userById | usersByIds | userByEmail => cases hplain
    | createGrant new =>
      exact insertRow_plain (accept_congr (t.checkGrant_hide (new.row stamp))) fun _ => rfl
    | createProfile roleId new =>
      have hcheck := t.checkProfile_hide stamp.order (new.row roleId stamp)
      exact insertRow_plain (accept_congr hcheck) fun _ => rfl
    | createGuardian roleId new =>
      have hcheck := t.checkGuardian_hide (new.row roleId stamp)
      exact insertRow_plain (accept_congr hcheck) fun _ => rfl
    | createSchool new => exact insertRow_plain rfl fun _ => rfl
    | createGrade new => exact insertRow_plain rfl fun _ => rfl
    | createGroup new => exact insertRow_plain rfl fun _ => rfl
    | teachersByIds ids =>
      have hfound : ids.filterMap t.hide.teacherShort? = ids.filterMap t.teacherShort? :=
        List.filterMap_congr fun id _ => t.teacherShort?_hide id
      exact congrArg (fun teachers => (Except.ok teachers, t.hide)) hfound
    | studentsByIds ids =>
      have hfound : ids.filterMap t.hide.studentShort? = ids.filterMap t.studentShort? :=
        List.filterMap_congr fun id _ => t.studentShort?_hide id
      exact congrArg (fun students => (Except.ok students, t.hide)) hfound
    | _ => rfl

end Serving

/-! ## Stores -/

def OpenUnit.hide (u : OpenUnit) : OpenUnit :=
  { u with snapshot := u.snapshot.hide }

def Store.hide (s : Store) : Store where
  tables := s.tables.hide
  opened := s.opened.map OpenUnit.hide

/-- What is left of a reply when the passwords are taken out. -/
def Program.Reply.hide {α β : Type} (hide : α → β) : Reply Store α → Reply Store β
  | .ended result s => .ended (result.map hide) s.hide
  | .stuck s => .stuck s.hide

def Served.hide {α β : Type} (hide : α → β) : Served Store α → Served Store β
  | .answered result s => .answered (result.map hide) s.hide
  | .waiting => .waiting

inductive Call.Unseeing : (c c' : Call) → (c.Answer → c'.Answer) → Prop
  | ask (ctx : Ctx) {r r' : Request} {hide : r.Answer → r'.Answer} (h : r.Unseeing r' hide) :
    Unseeing (.ask ctx r) (.ask ctx r') hide
  | begin (ctx : Ctx) : Unseeing (.begin ctx) (.begin ctx) id
  | commit (h : Handle) : Unseeing (.commit h) (.commit h) id
  | rollback (h : Handle) : Unseeing (.rollback h) (.rollback h) id

namespace Store

theorem unitOf_hide (s : Store) (h : Handle) :
    s.hide.unitOf h = (s.unitOf h).map OpenUnit.hide := by
  unfold unitOf
  cases h.home with
  | database => rfl
  | elsewhere => rfl
  | memory there =>
    cases hopened : s.opened with
    | none => simp [hide, hopened, Except.map]
    | some u =>
      by_cases hid : u.id = h.id <;> simp [hide, hopened, OpenUnit.hide, hid, Except.map]

theorem commit_hide (s : Store) (h : Handle) :
    s.hide.commit h = ((s.commit h).1, (s.commit h).2.hide) := by
  unfold commit
  rw [unitOf_hide]
  cases s.unitOf h <;> rfl

theorem rollback_hide (s : Store) (h : Handle) :
    s.hide.rollback h = ((s.rollback h).1, (s.rollback h).2.hide) := by
  unfold rollback
  rw [unitOf_hide]
  cases s.unitOf h <;> rfl

theorem begin_hide (s : Store) (tick : Tick) (ctx : Ctx) :
    s.hide.begin 0 tick ctx = (s.begin 0 tick ctx).hide id := by
  unfold begin
  cases ctx.isOver tick.now with
  | true => rfl
  | false =>
    cases hopened : s.opened <;>
      simp [hide, hopened, Served.hide, Except.map, OpenUnit.hide]

end Store

section Calls

variable {r r' : Request} {hide : r.Answer → r'.Answer} (s : Store)

theorem Request.Unseeing.perform (h : r.Unseeing r' hide) (stamp : Stamp) :
    s.hide.perform stamp r' = ((s.perform stamp r).1.map hide, (s.perform stamp r).2.hide) := by
  have hserve := h.serve s.tables stamp
  have htables : s.hide.tables = s.tables.hide := rfl
  simp only [Store.perform]
  rw [htables, hserve]
  rfl

theorem Request.Unseeing.operation (h : r.Unseeing r' hide) :
    Memory.operation r' = Memory.operation r := by
  cases h <;> rfl

theorem Request.Unseeing.ask (h : r.Unseeing r' hide) (tick : Tick) (ctx : Ctx) :
    s.hide.ask tick ctx r' = (s.ask tick ctx r).hide hide := by
  have hperform := h.perform s tick.stamp
  unfold Store.ask
  rw [hperform, h.operation]
  cases ctx.isOver tick.now with
  | true => rfl
  | false =>
    cases ctx.handle with
    | some handle =>
      simp only [Store.unitOf_hide]
      cases s.unitOf handle <;> rfl
    | none => cases hopened : s.opened <;> simp [Store.hide, hopened, Served.hide]

variable {c c' : Call} {hideAnswer : c.Answer → c'.Answer}

theorem Call.Unseeing.serve (h : c.Unseeing c' hideAnswer) (tick : Tick) :
    s.hide.serve 0 tick c' = (s.serve 0 tick c).hide hideAnswer := by
  cases h with
  | ask ctx h => exact h.ask s tick ctx
  | begin ctx => exact s.begin_hide tick ctx
  | commit h =>
    simp only [Store.serve, s.commit_hide h]
    cases (s.commit h).1 <;> rfl
  | rollback h =>
    simp only [Store.serve, s.rollback_hide h]
    cases (s.rollback h).1 <;> rfl

/-- On the blotted store the call is answered as on the real one, but for the passwords. -/
theorem Call.Unseeing.answer (h : c.Unseeing c' hideAnswer) (tick : Tick) :
    s.hide.answer tick c' = (s.answer tick c).hide hideAnswer := by
  have hdeadline : World.deadlineOf c' = World.deadlineOf c := by
    cases h <;> rfl
  have hoperation : (Backing.memory s.hide).operation c' = (Backing.memory s).operation c := by
    cases h with
    | ask ctx h => exact h.operation
    | begin | commit | rollback => rfl
  unfold Store.answer
  rw [h.serve s tick, hdeadline, hoperation]
  cases s.serve 0 tick c with
  | answered answer after => rfl
  | waiting => cases World.deadlineOf c <;> rfl

end Calls

/-! ## Programs -/

/-- The second program is the first without its passwords: it makes the same calls but for
them, whatever it is answered, and ends with the same value but for them. -/
inductive Program.Unseeing {α β : Type} (hide : α → β) : Program α → Program β → Prop
  | done (a : α) : Unseeing hide (.done a) (.done (hide a))
  | fail (e : AppError) : Unseeing hide (.fail e) (.fail e)
  | note (event : Event) {next : Program α} {next' : Program β} (h : Unseeing hide next next') :
    Unseeing hide (.note event next) (.note event next')
  | call {c c' : Call} {hideAnswer : c.Answer → c'.Answer} {next : Result c.Answer → Program α}
      {next' : Result c'.Answer → Program β} (hcall : c.Unseeing c' hideAnswer)
      (hnext : ∀ answer, Unseeing hide (next answer) (next' (answer.map hideAnswer))) :
    Unseeing hide (.call c next) (.call c' next')

namespace Program.Unseeing

variable {α β γ δ : Type} {hide : α → β} {hide' : γ → δ} {p : Program α} {p' : Program β}

theorem run (h : p.Unseeing hide p') (s : Store) (moments : Nat → Tick) :
    Course.run ⟨s.hide, moments⟩ p' = (Course.run ⟨s, moments⟩ p).hide hide := by
  induction h generalizing s moments with
  | done a => rfl
  | fail e => rfl
  | note event h ih => exact ih s moments
  | call hcall hnext ih =>
    rw [Course.run_call, Course.run_call]
    simp only [hcall.answer s]
    cases s.answer (moments 0) _ with
    | ended answer after => exact ih answer after fun n => moments (n + 1)
    | stuck after => rfl

theorem bind {f : α → Program γ} {f' : β → Program δ} (hp : p.Unseeing hide p')
    (hf : ∀ a, (f a).Unseeing hide' (f' (hide a))) : (p >>= f).Unseeing hide' (p' >>= f') := by
  change (p.bind f).Unseeing hide' (p'.bind f')
  induction hp with
  | done a => exact hf a
  | fail e => exact .fail e
  | note event h ih => exact .note event ih
  | call hcall hnext ih => exact .call hcall ih

theorem request {c c' : Call} {hideAnswer : c.Answer → c'.Answer}
    (h : c.Unseeing c' hideAnswer) : (request c).Unseeing hideAnswer (request c') := by
  refine .call h fun answer => ?_
  cases answer with
  | ok a => exact .done a
  | error e => exact .fail e

/-- A program that is never shown a user is its own blind copy. -/
theorem plain (h : p.Makes fun c => c.isPlain) : p.Unseeing id p := by
  induction p with
  | done a => exact .done a
  | fail e => exact .fail e
  | note event next ih => exact .note event (ih h)
  | call c next ih =>
    have hcall : c.Unseeing c id := by
      cases c with
      | ask ctx r => exact .ask ctx (.plain r h.1)
      | begin ctx => exact .begin ctx
      | commit handle => exact .commit handle
      | rollback handle => exact .rollback handle
    refine .call hcall fun answer => ?_
    have hsame : answer.map id = answer := by
      cases answer <;> rfl
    rw [hsame]
    exact ih answer (h.2 answer)

end Program.Unseeing

end Registrar
