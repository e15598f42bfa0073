import Registrar.Proofs.HiddenPasswords
import Registrar.Proofs.UnitDiscipline
import Registrar.Proofs.ValidRows
import Registrar.Record.Writing

/-!
# Passwords stay hidden

What a caller gets to see of the register does not depend on the password hashes that it holds.
Two callers who do the same things from an empty store on, but give different hashes to the
same new users, see the same outcomes all along: the same errors, with the same values of
refused fields, and the same records (`passwords_stay_hidden`).  Every service passes users on
as it found them, and no record is written with the hash of its user.
-/

namespace Registrar

open Program Service

/-! ## Looking up relations -/

section Lookup

variable {α β : Type} {ctx : Ctx} {mode : FetchMode} {ids : List Uuid}

def Related.hide (r : Related) : Related :=
  { r with users := r.users.map User.hide }

theorem indexById_hide (users : List User) :
    indexById User.id (users.map User.hide) = (indexById User.id users).map User.hide := by
  induction users with
  | nil => rfl
  | cons first rest ih =>
    have hlater : ((rest.map User.hide).any fun other => other.id == first.hide.id) =
        rest.any fun other => other.id == first.id := List.any_map
    simp only [List.map_cons, indexById, hlater, ih]
    split <;> rfl

theorem plain_fetchSchools : (fetchSchools ctx mode ids).Makes fun c => c.isPlain := by
  unfold fetchSchools
  split
  · trivial
  · cases mode
    · exact makes_bind (makes_request rfl) fun _ => trivial
    · exact makes_request rfl
  · exact makes_request rfl

theorem plain_fetchBatch {call : Program (List α)} (h : call.Makes fun c => c.isPlain) :
    (fetchBatch ids call).Makes fun c => c.isPlain := by
  unfold fetchBatch
  split
  · trivial
  · exact h

theorem unseeing_fetchUsers :
    (fetchUsers ctx mode ids).Unseeing (List.map User.hide) (fetchUsers ctx mode ids) := by
  have hbatch : ∀ ids, (ask ctx (.usersByIds ids)).Unseeing (List.map User.hide)
      (ask ctx (.usersByIds ids)) := fun ids => .request (.ask ctx (.usersByIds ids))
  unfold fetchUsers
  split
  · exact .done []
  · cases mode
    · refine .bind (.request (.ask ctx (.userById _))) fun user => ?_
      cases user <;> exact .done _
    · exact hbatch _
  · exact hbatch _

private theorem unseeing_reported (r : Related) :
    (report (.relationsResolved (countsOf r)) >>= fun _ => pure r : Program Related).Unseeing
      Related.hide (report (.relationsResolved (countsOf r.hide)) >>= fun _ => pure r.hide) := by
  have hcounts : countsOf r.hide = countsOf r := by
    simp [countsOf, Related.hide]
  rw [hcounts]
  exact .note _ (.done r)

theorem unseeing_resolve (keys : RelationKeys) :
    (resolve ctx mode keys).Unseeing Related.hide (resolve ctx mode keys) := by
  unfold resolve
  refine .bind (.plain plain_fetchSchools) fun schools => ?_
  refine .bind (.plain (plain_fetchBatch (makes_request rfl))) fun groups => ?_
  refine .bind (.plain (plain_fetchBatch (makes_request rfl))) fun organizations => ?_
  refine .bind (.plain (plain_fetchBatch (makes_request rfl))) fun grades => ?_
  refine .bind (.plain (plain_fetchBatch (makes_request rfl))) fun teachers => ?_
  refine .bind (.plain (plain_fetchBatch (makes_request rfl))) fun students => ?_
  refine .bind unseeing_fetchUsers fun users => ?_
  rw [indexById_hide]
  exact unseeing_reported _

variable [Hydratable α]

theorem unseeing_hydrateOne {hide : α → α} {item : α}
    (hitem : ∀ r : Related, Hydratable.hydrate r.hide item = hide (Hydratable.hydrate r item)) :
    (hydrateOne ctx item).Unseeing hide (hydrateOne ctx item) := by
  refine .bind (unseeing_resolve _) fun related => ?_
  rw [hitem related]
  exact .done _

theorem unseeing_hydrateMany {hide : List α → List α} {items : List α}
    (hitems : ∀ r : Related, hydrateAll r.hide items = hide (hydrateAll r items)) :
    (hydrateMany ctx items).Unseeing hide (hydrateMany ctx items) := by
  cases items with
  | nil =>
    have hnil : [] = hide [] := hitems {}
    have hdone : Program.Unseeing hide (.done []) (.done (hide [])) := .done []
    rw [← hnil] at hdone
    exact hdone
  | cons first rest =>
    refine .bind (unseeing_resolve _) fun related => ?_
    rw [hitems related]
    exact .done _

theorem unseeing_hydrateRows {bare : β → α} {hide : α → α}
    (hbare : ∀ (r : Related) row,
      Hydratable.hydrate r.hide (bare row) = hide (Hydratable.hydrate r (bare row)))
    (rows : List β) :
    (hydrateMany ctx (rows.map bare)).Unseeing (List.map hide)
      (hydrateMany ctx (rows.map bare)) := by
  apply unseeing_hydrateMany
  intro r
  simp [hydrateAll, hbare]

end Lookup

/-! ## Records that show a user -/

def Profile.hide (p : Profile) : Profile :=
  { p with user := p.user.map User.hide }

def GuardianLink.hide (l : GuardianLink) : GuardianLink :=
  { l with user := l.user.map User.hide }

theorem Related.user?_hide (r : Related) (id : Uuid) :
    r.hide.user? id = (r.user? id).map User.hide :=
  List.find?_map ..

theorem hydrate_hide_profile (r : Related) (row : ProfileRow) :
    Hydratable.hydrate r.hide row.bare = (Hydratable.hydrate r row.bare).hide := by
  simp only [Hydratable.hydrate, r.user?_hide]
  cases row.bare.kind.role.scopeKind <;> rfl

theorem hydrate_hide_link (r : Related) (row : GuardianRow) :
    Hydratable.hydrate r.hide row.bare = (Hydratable.hydrate r row.bare).hide := by
  simp only [Hydratable.hydrate, r.user?_hide]
  rfl

/-- Users and the records that show one are written without the hash. -/
theorem User.toJson_hide (u : User) : u.hide.toJson = u.toJson :=
  rfl

theorem Profile.toJson_hide (p : Profile) : p.hide.toJson = p.toJson := by
  have huser : Json.ofOption User.toJson (p.user.map User.hide) =
      Json.ofOption User.toJson p.user := by
    cases p.user <;> rfl
  simp only [toJson, hide, huser]
  rfl

theorem GuardianLink.toJson_hide (l : GuardianLink) : l.hide.toJson = l.toJson := by
  have huser : Json.ofOption User.toJson (l.user.map User.hide) =
      Json.ofOption User.toJson l.user := by
    cases l.user <;> rfl
  simp only [toJson, hide, huser]

/-! ## The services -/

section Services

variable {α : Type} {ctx : Ctx}

theorem unseeing_userById (id : Uuid) :
    (userById ctx id).Unseeing User.hide (userById ctx id) := by
  refine .bind (.request (.ask ctx (.userById id))) fun user => ?_
  cases user with
  | none => exact .fail _
  | some user => exact .done user

theorem unseeing_profileById (kind : ProfileKind) (id : Uuid) :
    (profileById ctx kind id).Unseeing Profile.hide (profileById ctx kind id) := by
  refine .bind (.plain (makes_request rfl)) fun row => ?_
  refine .bind (.plain (makes_found _ _ _)) fun row => ?_
  exact unseeing_hydrateOne fun r => hydrate_hide_profile r row

theorem unseeing_guardianById (id : Uuid) :
    (guardianById ctx id).Unseeing GuardianLink.hide (guardianById ctx id) := by
  refine .bind (.plain (makes_request rfl)) fun row => ?_
  refine .bind (.plain (makes_found _ _ _)) fun row => ?_
  exact unseeing_hydrateOne fun r => hydrate_hide_link r row

theorem unseeing_listProfiles (kind : ProfileKind) (query : ProfileQuery) (listing : Listing) :
    (listProfiles ctx kind query listing).Unseeing
      (fun page => (page.1.map Profile.hide, page.2)) (listProfiles ctx kind query listing) := by
  refine .bind (.plain (makes_request rfl)) fun rows => ?_
  refine .bind (.plain (makes_request rfl)) fun total => ?_
  refine .bind (unseeing_hydrateRows hydrate_hide_profile rows) fun profiles => ?_
  exact .done (profiles, total)

theorem unseeing_listGuardians (query : GuardianQuery) (listing : Listing) :
    (listGuardians ctx query listing).Unseeing
      (fun page => (page.1.map GuardianLink.hide, page.2)) (listGuardians ctx query listing) := by
  refine .bind (.plain (makes_request rfl)) fun rows => ?_
  refine .bind (.plain (makes_request rfl)) fun total => ?_
  refine .bind (unseeing_hydrateRows hydrate_hide_link rows) fun links => ?_
  exact .done (links, total)

theorem plain_inUnit {work : Ctx → Program α}
    (hwork : ∀ inside, (work inside).Makes fun c => c.isPlain) :
    (inUnit ctx work).Makes fun c => c.isPlain := by
  unfold inUnit beginUnit
  cases ctx.handle with
  | some opened => trivial
  | none =>
    refine ⟨rfl, fun answer => ?_⟩
    cases answer with
    | error e => trivial
    | ok handle =>
      apply makes_bind (makes_attempt (hwork _))
      intro outcome
      cases outcome <;> exact ⟨rfl, fun answer => by cases answer <;> trivial⟩

theorem plain_provision (new : NewProfile) :
    (provision ctx new).Makes fun c => c.isPlain := by
  unfold provision
  refine makes_bind (makes_ofResult _) fun _ => makes_bind (plain_inUnit fun inside => ?_) ?_
  · exact makes_provisionIn (fun _ => rfl) fun _ => rfl
  · exact fun _ => trivial

theorem unseeing_assignGuardian (new : NewGuardian) :
    (assignGuardian ctx new).Unseeing GuardianLink.hide (assignGuardian ctx new) := by
  have hassign : ∀ inside, (assignIn inside new).Makes fun c => c.isPlain := fun _ =>
    makes_assignIn rfl (fun _ => rfl) fun _ => rfl
  refine .bind (.plain (makes_ofResult _)) fun _ => ?_
  refine .bind (.plain (plain_inUnit hassign)) fun row => ?_
  exact .note _ (unseeing_guardianById row.id)

/-- Adding a user of whom the password is not known, only whether the whole is valid. -/
def addUserUnseen (ctx : Ctx) (valid : Result Unit) (new : NewUser) : Program User := do
  ofResult valid
  let row ← ask ctx (.createUser new)
  report (.userCreated row.id)
  return row

theorem unseeing_addUser (new : NewUser) :
    (addUser ctx new).Unseeing User.hide (addUserUnseen ctx (Ruled.check new) new.hide) := by
  refine .bind (.plain (makes_ofResult _)) fun _ => ?_
  refine .bind (.request (.ask ctx (.createUser new))) fun row => ?_
  exact .note _ (.done row)

end Services

namespace ServiceCall

variable {ctx : Ctx}

/-- The answer of a service without the passwords. -/
def hide : (call : ServiceCall) → call.Answer → call.Answer
  | addUser _ | userById _ => User.hide
  | addProfile _ | profileById _ _ => Profile.hide
  | listProfiles _ _ _ => fun page => (page.1.map Profile.hide, page.2)
  | assignGuardian _ | guardianById _ => GuardianLink.hide
  | listGuardians _ _ => fun page => (page.1.map GuardianLink.hide, page.2)
  | addRoleToUser _ _ _ | rolesOfUser _ | addOrganization _ | addSchool _ | addGrade _
  | addGroup _ | schoolById _ | groupsByIds _ | countProfiles _ _ => id

/-- The program of a service that does not know the password it may be given. -/
def unseen (ctx : Ctx) : (call : ServiceCall) → Program call.Answer
  | addUser new => addUserUnseen ctx (Ruled.check new) new.hide
  | other => other.program ctx

theorem unseeing_program (call : ServiceCall) :
    (call.program ctx).Unseeing call.hide (call.unseen ctx) := by
  cases call with
  | addUser new => exact unseeing_addUser new
  | userById id => exact unseeing_userById id
  | addRoleToUser userId role scope =>
    exact .plain (makes_checked (.createGrant { userId, role, scope }) rfl)
  | rolesOfUser userId =>
    exact .bind (.plain (makes_request rfl)) fun grants => unseeing_hydrateMany fun _ => rfl
  | addOrganization new => exact .plain (makes_checked (.createOrganization new) rfl)
  | addSchool new => exact .plain (makes_checked (.createSchool new) rfl)
  | addGroup new => exact .plain (makes_checked (.createGroup new) rfl)
  | addGrade new =>
    refine .bind (.plain (makes_ofResult _)) fun _ => ?_
    exact .plain (makes_request rfl)
  | schoolById id =>
    refine .bind (.plain (makes_request rfl)) fun row => ?_
    exact .bind (.plain (makes_found _ _ _)) fun school => unseeing_hydrateOne fun _ => rfl
  | groupsByIds ids =>
    exact .bind (.plain (makes_request rfl)) fun groups => unseeing_hydrateMany fun _ => rfl
  | addProfile new =>
    exact .bind (.plain (plain_provision new)) fun row => unseeing_profileById new.kind row.id
  | profileById kind id => exact unseeing_profileById kind id
  | listProfiles kind query listing => exact unseeing_listProfiles kind query listing
  | countProfiles kind query => exact .plain (makes_request rfl)
  | assignGuardian new => exact unseeing_assignGuardian new
  | guardianById id => exact unseeing_guardianById id
  | listGuardians query listing => exact unseeing_listGuardians query listing

/-! ## What is shown -/

/-- The answer of a service as it is written. -/
def form : (call : ServiceCall) → call.Answer → Json
  | addUser _, user | userById _, user => user.toJson
  | addRoleToUser _ _ _, row => row.bare.toJson
  | rolesOfUser _, grants => .arr (grants.map RoleGrant.toJson)
  | addOrganization _, row => row.toJson
  | addSchool _, row => row.toJson
  | addGrade _, row => row.toJson
  | addGroup _, row => row.toJson
  | schoolById _, school => school.toJson
  | groupsByIds _, groups => .arr (groups.map GroupShort.toJson)
  | addProfile _, profile | profileById _ _, profile => profile.toJson
  | listProfiles _ _ _, page => .arr [.arr (page.1.map Profile.toJson), .int page.2]
  | countProfiles _ _, count => .int count
  | assignGuardian _, link | guardianById _, link => link.toJson
  | listGuardians _ _, page => .arr [.arr (page.1.map GuardianLink.toJson), .int page.2]

theorem form_hide (call : ServiceCall) (answer : call.Answer) :
    call.form (call.hide answer) = call.form answer := by
  cases call with
  | addUser | userById => rfl
  | addProfile | profileById => exact Profile.toJson_hide answer
  | assignGuardian | guardianById => exact GuardianLink.toJson_hide answer
  | listProfiles kind query listing =>
    simp [form, hide, Function.comp_def, Profile.toJson_hide]
  | listGuardians query listing =>
    simp [form, hide, Function.comp_def, GuardianLink.toJson_hide]
  | addRoleToUser | rolesOfUser | addOrganization | addSchool | addGrade | addGroup | schoolById
  | groupsByIds | countProfiles => rfl

end ServiceCall

/-! ### Refused values -/

/-- The refused fields of a new record with what was given for them, which the message of the
error shows. -/
def rejected {α : Type} [Ruled α] (new : α) (fields : List (String × Json)) :
    List (String × Json) :=
  fields.filter fun field => (Ruled.failures new).any (·.field == field.1)

def NewUser.fields (new : NewUser) : List (String × Json) :=
  [("first_name", .str new.firstName), ("last_name", .str new.lastName),
    ("middle_name", Json.ofText? new.middleName), ("phone", Json.ofText? new.phone),
    ("email", .str new.email), ("password_hash", .str new.passwordHash)]

def ServiceCall.rejected : ServiceCall → List (String × Json)
  | addUser new => Registrar.rejected new new.fields
  | addOrganization new => Registrar.rejected new [("name", .str new.name)]
  | addSchool new => Registrar.rejected new [("name", .str new.name)]
  | addGrade new => Registrar.rejected new [("level", .int new.level), ("name", .str new.name)]
  | addGroup new => Registrar.rejected new [("name", .str new.name)]
  | addProfile new =>
    Registrar.rejected new
      [("phone", Json.ofText? new.phone), ("email", Json.ofText? new.email)]
  | _ => []

section Refused

open FieldFailure

variable {field : String} {rules : List Rule} {failure : FieldFailure}

theorem field_of_ofText {s : String} (h : ofText field rules s = some failure) :
    failure.field = field := by
  unfold ofText at h
  split at h
  · cases h
  · cases h
    rfl

theorem field_of_ofOptional {s : Option String} (h : ofOptional field rules s = some failure) :
    failure.field = field := by
  obtain ⟨text, _, htext⟩ := Option.bind_eq_some_iff.mp h
  exact field_of_ofText htext

variable (new : NewUser) {hash : String}

theorem failures_withPassword (h : hash ≠ "") :
    Ruled.failures { new with passwordHash := hash } =
      [ofText "first_name" [nameRule 100] new.firstName,
        ofText "last_name" [nameRule 100] new.lastName,
        ofOptional "middle_name" [.length none (some 100)] new.middleName,
        ofOptional "phone" [.phone] new.phone,
        ofText "email" [.email] new.email].filterMap id := by
  have hpassword : ofText "password_hash" [.length (some 1) none] hash = none :=
    ofText_eq_none_iff.mpr (by simpa using h)
  simp [Ruled.failures, hpassword, List.filterMap_cons]

theorem password_not_refused (h : hash ≠ "") :
    ((Ruled.failures { new with passwordHash := hash }).any (·.field == "password_hash")) =
      false := by
  rw [failures_withPassword new h, List.any_eq_false]
  intro failure hfailure
  simp only [List.mem_filterMap, List.mem_cons, List.not_mem_nil, or_false, id_eq,
    exists_eq_right] at hfailure
  have hfield : failure.field ∈ ["first_name", "last_name", "middle_name", "phone", "email"] := by
    rcases hfailure with hfirst | hlast | hmiddle | hphone | hemail
    · simp [field_of_ofText hfirst.symm]
    · simp [field_of_ofText hlast.symm]
    · simp [field_of_ofOptional hmiddle.symm]
    · simp [field_of_ofOptional hphone.symm]
    · simp [field_of_ofText hemail.symm]
  intro hpassword
  rw [beq_iff_eq.mp hpassword] at hfield
  revert hfield
  decide

theorem check_withPassword {hash' : String} (h : hash ≠ "") (h' : hash' ≠ "") :
    Ruled.check { new with passwordHash := hash } =
      Ruled.check { new with passwordHash := hash' } := by
  unfold Ruled.check
  rw [failures_withPassword new h, failures_withPassword new h']

theorem rejected_withPassword {hash' : String} (h : hash ≠ "") (h' : hash' ≠ "") :
    (ServiceCall.addUser { new with passwordHash := hash }).rejected =
      (ServiceCall.addUser { new with passwordHash := hash' }).rejected := by
  have hfailures : Ruled.failures { new with passwordHash := hash } =
      Ruled.failures { new with passwordHash := hash' } := by
    rw [failures_withPassword new h, failures_withPassword new h']
  have hrefused := password_not_refused new h'
  simp only [ServiceCall.rejected, rejected, NewUser.fields, hfailures]
  simp only [List.filter_cons, hrefused]
  rfl

end Refused

/-! ## Two callers -/

/-- What a caller gets to see: a record, an error with the refused values that its message
shows, or nothing yet. -/
inductive Outcome where
  | shown (form : Json)
  | refused (error : AppError) (values : List (String × Json))
  | waiting

def outcomeOf {α : Type} (form : α → Json) (values : List (String × Json)) :
    Reply Store α → Outcome × Store
  | .ended (.ok a) s => (.shown (form a), s)
  | .ended (.error (.invalid first others)) s => (.refused (.invalid first others) values, s)
  | .ended (.error e) s => (.refused e [], s)
  | .stuck s => (.waiting, s)

/-- What a caller does: calls a service at some moments and in any context, or opens, closes or
abandons a unit of work. -/
inductive Deed where
  | service (moments : Nat → Tick) (ctx : Ctx) (asked : ServiceCall)
  | begin (tick : Tick) (ctx : Ctx)
  | commit (h : Handle)
  | rollback (h : Handle)
  | drop (h : Handle)

namespace Deed

def run (s : Store) : Deed → Outcome × Store
  | service moments ctx asked =>
    outcomeOf asked.form asked.rejected (Course.run ⟨s, moments⟩ (asked.program ctx))
  | begin tick ctx => outcomeOf (fun h => .str h.describe) [] (s.answer tick (.begin ctx))
  | commit h => outcomeOf (fun _ => .null) [] (.ended (s.commit h).1 (s.commit h).2)
  | rollback h => outcomeOf (fun _ => .null) [] (.ended (s.rollback h).1 (s.rollback h).2)
  | drop h => (.shown .null, s.drop h)

/-- The same without any password. -/
def look (s : Store) : Deed → Outcome × Store
  | service moments ctx asked =>
    outcomeOf asked.form asked.rejected (Course.run ⟨s, moments⟩ (asked.unseen ctx))
  | deed => deed.run s

/-- Two callers do the same, or give two passwords, neither of them empty, to the same new
user. -/
inductive Twin : Deed → Deed → Prop
  | same (deed : Deed) : Twin deed deed
  | passwords (moments : Nat → Tick) (ctx : Ctx) (new : NewUser) (hash hash' : String)
      (h : hash ≠ "") (h' : hash' ≠ "") :
    Twin (.service moments ctx (.addUser { new with passwordHash := hash }))
      (.service moments ctx (.addUser { new with passwordHash := hash' }))

end Deed

/-- What is seen of some deeds, one after another. -/
def outcomes (s : Store) : List Deed → List Outcome
  | [] => []
  | deed :: rest => (deed.run s).1 :: outcomes (deed.run s).2 rest

theorem outcomeOf_hide {α : Type} {form : α → Json} {hide : α → α}
    (hform : ∀ a, form (hide a) = form a) (values : List (String × Json))
    (reply : Reply Store α) :
    outcomeOf form values (reply.hide hide) =
      ((outcomeOf form values reply).1, (outcomeOf form values reply).2.hide) := by
  cases reply with
  | stuck s => rfl
  | ended result s =>
    cases result with
    | ok a => simp [Reply.hide, Except.map, outcomeOf, hform]
    | error e => cases e <;> rfl

/-- On the blotted store the same is seen. -/
theorem Deed.look_hide (deed : Deed) (s : Store) :
    deed.look s.hide = ((deed.run s).1, (deed.run s).2.hide) := by
  cases deed with
  | service moments ctx asked =>
    simp only [look, run, asked.unseeing_program.run]
    exact outcomeOf_hide asked.form_hide _ _
  | begin tick ctx =>
    simp only [look, run, (Call.Unseeing.begin ctx).answer]
    exact outcomeOf_hide (fun _ => rfl) _ _
  | commit h =>
    simp only [look, run, s.commit_hide]
    rcases (s.commit h).1 with e | _
    · cases e <;> rfl
    · rfl
  | rollback h =>
    simp only [look, run, s.rollback_hide]
    rcases (s.rollback h).1 with e | _
    · cases e <;> rfl
    · rfl
  | drop h =>
    simp only [look, run, Store.drop, s.rollback_hide]

theorem Deed.Twin.look {deed deed' : Deed} (h : deed.Twin deed') (s : Store) :
    deed.look s = deed'.look s := by
  cases h with
  | same deed => rfl
  | passwords moments ctx new hash hash' h h' =>
    have hunseen : (ServiceCall.addUser { new with passwordHash := hash }).unseen ctx =
        (ServiceCall.addUser { new with passwordHash := hash' }).unseen ctx := by
      have hcheck := check_withPassword new h h'
      simp only [ServiceCall.unseen, hcheck]
      rfl
    change outcomeOf User.toJson _ (Course.run ⟨s, moments⟩ _) =
      outcomeOf User.toJson _ (Course.run ⟨s, moments⟩ _)
    rw [hunseen, rejected_withPassword new h h']

theorem outcomes_twins {s s' : Store} {deeds deeds' : List Deed} (hs : s.hide = s'.hide)
    (h : List.Forall₂ Deed.Twin deeds deeds') : outcomes s deeds = outcomes s' deeds' := by
  induction h generalizing s s' with
  | nil => rfl
  | cons htwin hrest ih =>
    rename_i deed deed' deeds deeds'
    have hlook : ((deed.run s).1, (deed.run s).2.hide) =
        ((deed'.run s').1, (deed'.run s').2.hide) := by
      rw [← deed.look_hide, ← deed'.look_hide, hs, htwin.look]
    obtain ⟨hseen, hafter⟩ := Prod.mk.inj hlook
    simp only [outcomes, hseen, ih hafter]

/-- Two callers who do the same on an empty register, but for the password hashes of the users that
they enter, cannot tell from any of the answers whose hashes it holds. -/
theorem passwords_stay_hidden {deeds deeds' : List Deed}
    (h : List.Forall₂ Deed.Twin deeds deeds') :
    outcomes .empty deeds = outcomes .empty deeds' :=
  outcomes_twins rfl h

/-- A service whose calls get the identifiers from `first` on. -/
def Deed.ofService (first : Nat) (asked : ServiceCall) : Deed :=
  .service (fun n => ⟨⟨0⟩, ⟨.ofNat (first + n), ⟨0⟩, default⟩⟩) .background asked

/-- A teacher is entered with a password, after an attempt with a bad address. -/
def enrolling (hash : String) : List Deed :=
  [.ofService 10 (.addOrganization ⟨"Northern Schools"⟩),
    .ofService 20 (.addSchool ⟨.ofNat 10, "First School"⟩),
    .ofService 30 (.addUser ⟨"Tom", "Grey", none, .male, none, "tom", hash⟩),
    .ofService 40 (.addUser ⟨"Tom", "Grey", none, .male, none, "tom@a.org", hash⟩),
    .ofService 50 (.addProfile ⟨.teacher, .ofNat 40, .ofNat 20, none, none, none⟩),
    .ofService 60 (.listProfiles .teacher {} {})]

theorem passwords_stay_hidden_enrolling :
    List.Forall₂ Deed.Twin (enrolling "a hash") (enrolling "another hash") ∧
      outcomes .empty (enrolling "a hash") = outcomes .empty (enrolling "another hash") := by
  have htwins : List.Forall₂ Deed.Twin (enrolling "a hash") (enrolling "another hash") := by
    refine .cons (.same _) (.cons (.same _) (.cons ?_ (.cons ?_ (.cons (.same _)
      (.cons (.same _) .nil)))))
    · exact .passwords _ _ ⟨"Tom", "Grey", none, .male, none, "tom", ""⟩ _ _ (by decide) (by decide)
    · exact .passwords _ _ ⟨"Tom", "Grey", none, .male, none, "tom@a.org", ""⟩ _ _ (by decide)
        (by decide)
  exact ⟨htwins, passwords_stay_hidden htwins⟩

end Registrar
