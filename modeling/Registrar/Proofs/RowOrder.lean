import Registrar.Proofs.Commuting
import Registrar.Proofs.Insertions
import Registrar.Proofs.ProfileInsertion
import Registrar.Proofs.StableListing

/-!
# The order of the rows

The tables are maps, which yield their rows in an order that nobody chooses.  No call depends on
it, and no run of a client (`Course.run_forgets_order`), with one exception.  The contacts of a
new profile are compared row by row, the phone first in each row; if one stored profile has its
phone and another one its e-mail address, the row that is yielded first decides which of the two
is reported (`answers_forget_order`).

The order comes in twice.  A new profile is compared with the rows as they are yielded at the
moment (`Tick.yielding`).  Everybody else takes the rows as the tables list them, and is therefore
asked again with the same rows listed in any other order (`Store.Shuffled`).
-/

namespace Registrar

/-- The same stamp, but the tables yield their rows in the order. -/
def Stamp.yielding (stamp : Stamp) (order : RowOrder) : Stamp :=
  { stamp with order }

/-- The same moment, but the tables yield their rows in the order. -/
def Tick.yielding (tick : Tick) (order : RowOrder) : Tick :=
  { tick with stamp := tick.stamp.yielding order }

theorem Request.newRow?_yielding (request : Request) (stamp : Stamp) (order : RowOrder) :
    request.newRow? (stamp.yielding order) = request.newRow? stamp := by
  cases request <;> rfl

theorem Request.answer_of_rowOf? {request : Request} {a b : request.Answer} {row : Row}
    (ha : request.rowOf? a = some row) (hb : request.rowOf? b = some row) : a = b := by
  cases request <;> cases ha <;> cases hb <;> rfl

/-! ## Lists -/

theorem Listing.apply_eq_of_perm {α : Type} {key : α → SortKey} {rows rows' : List α}
    (listing : Listing) (hperm : rows.Perm rows')
    (hkey : ∀ a ∈ rows, ∀ b ∈ rows, key a = key b → a = b) :
    listing.apply key rows' = listing.apply key rows := by
  have hsorted : ∀ found : List α,
      (found.mergeSort fun a b => (key a).le (key b)).Pairwise fun a b => (key a).le (key b) :=
    List.pairwise_mergeSort (fun _ _ _ => SortKey.le_trans) fun _ _ => SortKey.le_total _ _
  have hperms : ∀ found : List α, (found.mergeSort fun a b => (key a).le (key b)).Perm found :=
    fun found => List.mergeSort_perm found _
  have hsame : (rows'.mergeSort fun a b => (key a).le (key b)) =
      rows.mergeSort fun a b => (key a).le (key b) := by
    refine ((hperms rows').trans (hperm.symm.trans (hperms rows).symm)).eq_of_pairwise
      (fun a b ha hb hab hba => ?_) (hsorted rows') (hsorted rows)
    have ha := hperm.mem_iff.mpr ((hperms rows').mem_iff.mp ha)
    have hb := (hperms rows).mem_iff.mp hb
    exact hkey a ha b hb (SortKey.le_antisymm hab hba)
  have harrange : listing.arrange key rows' = listing.arrange key rows := by
    simp only [Listing.arrange, hsame]
  unfold Listing.apply
  rw [harrange]

/-! ## Look-ups -/

namespace Tables

variable {t t' : Tables}

theorem Unique.email_inj (h : t.Unique) {a b : User} (ha : a ∈ t.users) (hb : b ∈ t.users)
    (hemail : a.email = b.email) : a = b :=
  List.inj_on_of_nodup_map (List.pairwise_map.mpr h.users) ha hb hemail

theorem Shuffled.profilesMatching (h : t.Shuffled t') (kind : ProfileKind) (query : ProfileQuery) :
    (t.profilesMatching kind query).Perm (t'.profilesMatching kind query) :=
  (h.profiles.filter _).filter _

theorem Shuffled.guardiansMatching (h : t.Shuffled t') (query : GuardianQuery) :
    (t.guardiansMatching query).Perm (t'.guardiansMatching query) :=
  h.guardians.filter _

section

variable (h : t.Shuffled t') (hkeyed : t.Keyed)
include h hkeyed

theorem Shuffled.grantsInOrder_eq (userId : Uuid) :
    t'.grantsInOrder userId = t.grantsInOrder userId := by
  refine Listing.apply_eq_of_perm {} (h.grants.filter _) fun a ha b hb hkey => ?_
  exact eq_of_lookup hkeyed.grants (List.mem_of_mem_filter ha) (List.mem_of_mem_filter hb)
    (congrArg SortKey.id hkey)

theorem Shuffled.listProfiles_eq (kind : ProfileKind) (query : ProfileQuery) (listing : Listing) :
    listing.apply ProfileRow.sortKey (t'.profilesMatching kind query) =
      listing.apply ProfileRow.sortKey (t.profilesMatching kind query) := by
  refine listing.apply_eq_of_perm (h.profilesMatching kind query) fun a ha b hb hkey => ?_
  obtain ⟨ha, hkind, _⟩ := mem_profilesMatching.mp ha
  obtain ⟨hb, hkind', _⟩ := mem_profilesMatching.mp hb
  have hfound := (hkeyed.profiles kind b.id a).mpr ⟨ha, hkind, congrArg SortKey.id hkey⟩
  exact Option.some.inj (hfound.symm.trans ((hkeyed.profiles kind b.id b).mpr ⟨hb, hkind', rfl⟩))

theorem Shuffled.listGuardians_eq (query : GuardianQuery) (listing : Listing) :
    listing.apply GuardianRow.sortKey (t'.guardiansMatching query) =
      listing.apply GuardianRow.sortKey (t.guardiansMatching query) := by
  refine listing.apply_eq_of_perm (h.guardiansMatching query) fun a ha b hb hkey => ?_
  exact eq_of_lookup hkeyed.guardians (List.mem_of_mem_filter ha) (List.mem_of_mem_filter hb)
    (congrArg SortKey.id hkey)

theorem Shuffled.lookup_eq (hunique : t.Unique) {request : Request} (hlookup : request.isLookup)
    (stamp stamp' : Stamp) :
    (t'.serve Memory.policy stamp' request).1 = (t.serve Memory.policy stamp request).1 := by
  have hemail : ∀ email, t'.users.find? (·.email == email) = t.users.find? (·.email == email) := by
    refine fun email => find?_eq_of_perm h.users fun a ha b hb hsame hsame' => ?_
    exact hunique.email_inj ha hb ((beq_iff_eq.mp hsame).trans (beq_iff_eq.mp hsame').symm)
  cases request with
  | userByEmail email => exact congrArg Except.ok (hemail email)
  | grantsOfUser userId => exact congrArg Except.ok (h.grantsInOrder_eq hkeyed userId)
  | listProfiles kind query listing =>
    exact congrArg Except.ok (h.listProfiles_eq hkeyed kind query listing)
  | countProfiles kind query =>
    exact congrArg Except.ok (h.profilesMatching kind query).length_eq.symm
  | listGuardians query listing =>
    exact congrArg Except.ok (h.listGuardians_eq hkeyed query listing)
  | countGuardians query => exact congrArg Except.ok (h.guardiansMatching query).length_eq.symm
  | createUser | createGrant | createOrganization | createSchool | createGrade | createGroup
  | createProfile | createGuardian => exact nomatch hlookup
  | _ =>
    simp only [serve, h.organization?_eq hkeyed, h.school?_eq hkeyed, h.grade?_eq hkeyed,
      h.group?_eq hkeyed, h.user?_eq hkeyed, h.grant?_eq hkeyed, h.guardian?_eq hkeyed,
      h.profile?_eq hkeyed, h.teacherShort?_eq hkeyed, h.studentShort?_eq hkeyed]

end

end Tables

/-! ## Insertions -/

section Contacts

open Memory

variable {order order' : RowOrder} {t : Tables} {stamp : Stamp} {roleId : Uuid} {new : NewProfile}
  {phone email : String}

/-- What the profile refers to is stored.  Its phone is that of a stored profile of its kind, and
its e-mail address that of another one. -/
structure NewProfile.Torn (t : Tables) (roleId : Uuid) (new : NewProfile) (phone email : String) :
    Prop extends new.Resolved t roleId where
  phone_eq : new.phone = some phone
  email_eq : new.email = some email
  phone_taken : ∃ other ∈ t.profilesOf new.kind, other.phone = some phone
  email_taken : ∃ other ∈ t.profilesOf new.kind, other.email = some email ∧ other.phone ≠ some phone

theorem checkContacts_eq_findSome? {entity : String} {row : ProfileRow} {others : List ProfileRow} :
    checkContacts entity row others =
      match others.findSome? (contactTaken? entity row) with
      | some e => .error e
      | none => .ok () := by
  induction others with
  | nil => rfl
  | cons other rest ih =>
    rw [checkContacts, List.findSome?_cons]
    cases contactTaken? entity row other with
    | none => exact ih
    | some e => rfl

theorem contactTaken?_phone {other : ProfileRow} (hphone : new.phone = some phone)
    (htaken : other.phone = some phone) :
    contactTaken? new.kind.entity (new.row roleId stamp) other =
      some (.duplicate new.kind.entity "phone" phone) := by
  simp [contactTaken?, NewProfile.row, hphone, htaken]

/-- Unless the contacts are torn between two rows, all rows that share one refuse the profile with
the same error. -/
theorem contactTaken?_agree (hresolved : new.Resolved t roleId)
    (hwhole : ∀ phone email, ¬new.Torn t roleId phone email) :
    ∀ a ∈ t.profilesOf new.kind, ∀ b ∈ t.profilesOf new.kind,
      ∀ e ∈ contactTaken? new.kind.entity (new.row roleId stamp) a,
      ∀ e' ∈ contactTaken? new.kind.entity (new.row roleId stamp) b, e = e' := by
  -- A row that shares the e-mail address also shares a phone that is taken.
  have hphoneFirst : ∀ a ∈ t.profilesOf new.kind, ∀ phone ∈ new.phone, a.phone = some phone →
      ∀ b ∈ t.profilesOf new.kind, ∀ email ∈ new.email, b.email = some email →
      contactTaken? new.kind.entity (new.row roleId stamp) b =
        some (.duplicate new.kind.entity "phone" phone) := by
    intro a ha phone hphone hsharesPhone b hb email hemail hsharesEmail
    by_cases hb' : b.phone = some phone
    · exact contactTaken?_phone hphone hb'
    · exact absurd ⟨hresolved, hphone, hemail, ⟨a, ha, hsharesPhone⟩, ⟨b, hb, hsharesEmail, hb'⟩⟩
        (hwhole phone email)
  intro a ha b hb e he e' he'
  rcases contactTaken?_eq_some he with ⟨p, hp, hap, rfl⟩ | ⟨m, hm, ham, rfl⟩ <;>
    rcases contactTaken?_eq_some he' with ⟨p', hp', hbp, rfl⟩ | ⟨m', hm', hbm, rfl⟩
  case inl.inl => rw [Option.mem_unique hp hp']
  case inl.inr => exact Option.some.inj ((hphoneFirst a ha p hp hap b hb m' hm' hbm).symm.trans he')
  case inr.inl => exact Option.some.inj (he.symm.trans (hphoneFirst b hb p' hp' hbp a ha m hm ham))
  case inr.inr => rw [Option.mem_unique hm hm']

theorem bind_refer_congr {entity field : String} {value : Uuid} {known : Bool}
    {next next' : Unit → Result Unit} (h : known = true → next () = next' ()) :
    (refer entity field value known >>= next) = (refer entity field value known >>= next') := by
  cases known with
  | false => rfl
  | true => exact h rfl

theorem checkProfile_row (order : RowOrder) (t : Tables) (stamp : Stamp) (roleId : Uuid)
    (new : NewProfile) :
    checkProfile order t (new.row roleId stamp) =
      (refer new.kind.entity "role_id" roleId (t.grant? roleId).isSome >>= fun _ =>
        refer new.kind.entity "user_id" new.userId (t.user? new.userId).isSome >>= fun _ =>
        refer new.kind.entity "scope_id" new.scopeId (t.scopeExists new.kind new.scopeId) >>=
          fun _ =>
        checkContacts new.kind.entity (new.row roleId stamp)
          (order.arrange (t.profilesOf new.kind))) :=
  rfl

theorem checkProfile_eq_of_shuffled {t' : Tables} (h : t.Shuffled t') (hkeyed : t.Keyed)
    (hwhole : ∀ phone email, ¬new.Torn t roleId phone email) :
    checkProfile order' t' (new.row roleId stamp) =
      checkProfile order t (new.row roleId stamp) := by
  have hscope : t'.scopeExists new.kind new.scopeId = t.scopeExists new.kind new.scopeId := by
    simp only [Tables.scopeExists, h.school?_eq hkeyed, h.organization?_eq hkeyed]
  rw [checkProfile_row, checkProfile_row, h.grant?_eq hkeyed, h.user?_eq hkeyed, hscope]
  refine bind_refer_congr fun hgrant => ?_
  refine bind_refer_congr fun huser => ?_
  refine bind_refer_congr fun hknown => ?_
  have hresolved : new.Resolved t roleId :=
    ⟨Tables.grant?_isSome_iff.mp hgrant, Tables.user?_isSome_iff.mp huser,
      Tables.scopeExists_iff.mp hknown⟩
  have hprofiles : (t.profilesOf new.kind).Perm (t'.profilesOf new.kind) := h.profiles.filter _
  have hyielded : (order.arrange (t.profilesOf new.kind)).Perm
      (order'.arrange (t'.profilesOf new.kind)) :=
    (order.arrange_perm _).trans (hprofiles.trans (order'.arrange_perm _).symm)
  have hagree : ∀ a ∈ order.arrange (t.profilesOf new.kind),
      ∀ b ∈ order.arrange (t.profilesOf new.kind),
      ∀ e ∈ contactTaken? new.kind.entity (new.row roleId stamp) a,
      ∀ e' ∈ contactTaken? new.kind.entity (new.row roleId stamp) b, e = e' := by
    simp only [RowOrder.mem_arrange]
    exact contactTaken?_agree hresolved hwhole
  rw [checkContacts_eq_findSome?, checkContacts_eq_findSome?,
    Tables.findSome?_eq_of_perm hyielded hagree]

/-- The check is the same in every order of the rows, listed or yielded. -/
theorem Row.check_eq_of_shuffled {t' : Tables} (h : t.Shuffled t') (hkeyed : t.Keyed)
    {request : Request} {row : Row} (hrow : request.newRow? stamp = some row)
    (hwhole : ∀ roleId new phone email, request = .createProfile roleId new →
      ¬new.Torn t roleId phone email) : row.check order' t' = row.check order t := by
  cases request with
  | createOrganization new =>
    cases hrow
    rfl
  | createSchool new =>
    cases hrow
    simp only [check, checkSchool, h.organization?_eq hkeyed]
  | createGrade new =>
    cases hrow
    simp only [check, checkGrade, h.school?_eq hkeyed, h.grades.any_eq]
  | createGroup new =>
    cases hrow
    simp only [check, checkGroup, h.school?_eq hkeyed, h.grade?_eq hkeyed, h.profile?_eq hkeyed]
  | createUser new =>
    cases hrow
    simp only [check, checkUser, h.users.any_eq]
  | createGrant new =>
    cases hrow
    simp only [check, checkGrant, Tables.grantTaken, h.user?_eq hkeyed, h.school?_eq hkeyed,
      h.organization?_eq hkeyed, h.group?_eq hkeyed, h.grants.any_eq]
  | createProfile roleId new =>
    cases hrow
    exact checkProfile_eq_of_shuffled h hkeyed fun phone email => hwhole roleId new phone email rfl
  | createGuardian roleId new =>
    cases hrow
    simp only [check, checkGuardian, h.grant?_eq hkeyed, h.user?_eq hkeyed, h.profile?_eq hkeyed,
      h.guardians.any_eq]
  | _ => cases hrow

/-! ## Insertions whose contacts are torn -/

theorem checkProfile_of_resolved (h : new.Resolved t roleId) :
    checkProfile order t (new.row roleId stamp) =
      checkContacts new.kind.entity (new.row roleId stamp)
        (order.arrange (t.profilesOf new.kind)) := by
  rw [checkProfile_row, Tables.grant?_isSome_iff.mpr h.grant, Tables.user?_isSome_iff.mpr h.user,
    Tables.scopeExists_iff.mpr h.scope]
  rfl

/-- One of the two contacts is refused. -/
theorem NewProfile.Torn.check_cases (h : new.Torn t roleId phone email) (order : RowOrder)
    (stamp : Stamp) :
    checkProfile order t (new.row roleId stamp) =
        .error (.duplicate new.kind.entity "phone" phone) ∨
      checkProfile order t (new.row roleId stamp) =
        .error (.duplicate new.kind.entity "email" email) := by
  rw [checkProfile_of_resolved h.toResolved]
  cases hcheck : checkContacts new.kind.entity (new.row roleId stamp)
      (order.arrange (t.profilesOf new.kind)) with
  | ok u =>
    obtain ⟨other, hother, htaken⟩ := h.phone_taken
    have hall := checkContacts_eq_ok_iff.mp (checkContacts_arrange_eq_ok_iff.mp hcheck)
    have hfree := hall other hother
    cases (contactTaken?_phone h.phone_eq htaken).symm.trans hfree
  | error e =>
    obtain ⟨other, _, htaken⟩ := checkContacts_eq_error hcheck
    rcases contactTaken?_eq_some htaken with ⟨p, hp, _, rfl⟩ | ⟨m, hm, _, rfl⟩
    · rw [Option.mem_unique hp h.phone_eq]
      exact .inl rfl
    · rw [Option.mem_unique hm h.email_eq]
      exact .inr rfl

end Contacts

/-! ## Calls -/

/-- The same unit, with the rows that it would put back in another order. -/
structure OpenUnit.Shuffled (u u' : OpenUnit) : Prop where
  id : u'.id = u.id
  snapshot : u.snapshot.Shuffled u'.snapshot

/-- The same store, with the rows of its tables in another order. -/
structure Store.Shuffled (s s' : Store) : Prop where
  tables : s.tables.Shuffled s'.tables
  opened : Option.Rel OpenUnit.Shuffled s.opened s'.opened

/-- A call is answered the same and leaves the same rows, or waits both times. -/
inductive Served.Alike {α : Type} : Served Store α → Served Store α → Prop
  | answered (answer : Result α) {s s' : Store} (h : s.Shuffled s') :
    Alike (.answered answer s) (.answered answer s')
  | waiting : Alike .waiting .waiting

/-- The call is let through to the tables with a profile whose contacts are torn. -/
structure Store.Torn (s : Store) (tick : Tick) (ctx : Ctx) (roleId : Uuid) (new : NewProfile)
    (phone email : String) : Prop where
  admitted : s.Admits ctx
  in_time : ctx.isOver tick.now = false
  torn : new.Torn s.tables roleId phone email

namespace Store

variable {s s' : Store} {tick : Tick} {ctx : Ctx} {request : Request}

theorem Shuffled.unitOf (h : s.Shuffled s') (handle : Handle) :
    (∃ u u', s.unitOf handle = .ok u ∧ s'.unitOf handle = .ok u' ∧ u.Shuffled u') ∨
      ∃ e, s.unitOf handle = .error e ∧ s'.unitOf handle = .error e := by
  have hopened := h.opened
  unfold Store.unitOf
  cases handle.home with
  | database => exact .inr ⟨_, rfl, rfl⟩
  | elsewhere => exact .inr ⟨_, rfl, rfl⟩
  | memory there =>
    cases hs : s.opened <;> cases hs' : s'.opened <;> rw [hs, hs'] at hopened <;> cases hopened
    case none.none => exact .inr ⟨_, rfl, rfl⟩
    case some.some u u' hunit =>
      have hsame : u'.id = u.id := hunit.id
      simp only [hsame]
      by_cases hid : u.id = handle.id
      · simp only [if_pos hid]
        exact .inl ⟨u, u', rfl, rfl, hunit⟩
      · simp only [if_neg hid]
        exact .inr ⟨_, rfl, rfl⟩

/-- Served on the tables, a request is answered the same and leaves the same rows. -/
theorem Shuffled.perform (h : s.Shuffled s') (hkeyed : s.tables.Keyed) (hunique : s.tables.Unique)
    (stamp : Stamp) (order : RowOrder)
    (hwhole : ∀ roleId new phone email, request = .createProfile roleId new →
      ¬new.Torn s.tables roleId phone email) :
    (s'.perform (stamp.yielding order) request).1 = (s.perform stamp request).1 ∧
      (s.perform stamp request).2.Shuffled (s'.perform (stamp.yielding order) request).2 := by
  cases hlookup : request.isLookup with
  | true =>
    rw [perform_lookup s stamp hlookup, perform_lookup s' (stamp.yielding order) hlookup]
    exact ⟨h.tables.lookup_eq hkeyed hunique hlookup stamp _, h⟩
  | false =>
    obtain ⟨row, hrow⟩ := Request.exists_newRow? stamp hlookup
    have hrow' := (request.newRow?_yielding stamp order).trans hrow
    obtain ⟨a, ha, hperform⟩ := exists_perform hrow
    obtain ⟨a', ha', hperform'⟩ := exists_perform hrow'
    rw [hperform s, hperform' s', Request.answer_of_rowOf? ha' ha,
      Row.check_eq_of_shuffled h.tables hkeyed hrow hwhole]
    cases row.check stamp.order s.tables with
    | ok u => exact ⟨rfl, h.tables.addTo row, h.opened⟩
    | error e => exact ⟨rfl, h⟩

theorem Shuffled.ask (h : s.Shuffled s') (hkeyed : s.tables.Keyed) (hunique : s.tables.Unique)
    (order : RowOrder)
    (hwhole : ∀ roleId new phone email, request = .createProfile roleId new →
      ¬s.Torn tick ctx roleId new phone email) :
    (s.ask tick ctx request).Alike (s'.ask (tick.yielding order) ctx request) := by
  cases htime : ctx.isOver tick.now with
  | true =>
    have htime' : ctx.isOver (tick.yielding order).now = true := htime
    simp only [Store.ask, htime, htime', if_true]
    exact .answered _ h
  | false =>
    have htime' : ctx.isOver (tick.yielding order).now = false := htime
    have hserved : s.Admits ctx →
        Served.Alike (.answered (s.perform tick.stamp request).1 (s.perform tick.stamp request).2)
          (.answered (s'.perform (tick.yielding order).stamp request).1
            (s'.perform (tick.yielding order).stamp request).2) := by
      intro hadmits
      obtain ⟨hanswer, hafter⟩ := h.perform hkeyed hunique tick.stamp order
        fun roleId new phone email hrequest htorn =>
          hwhole roleId new phone email hrequest ⟨hadmits, htime, htorn⟩
      change Served.Alike _ (.answered (s'.perform (tick.stamp.yielding order) request).1 _)
      rw [hanswer]
      exact .answered _ hafter
    unfold Admits at hserved
    cases hctx : ctx.handle with
    | some handle =>
      rw [hctx] at hserved
      rcases h.unitOf handle with ⟨u, u', hunit, hunit', _⟩ | ⟨e, herror, herror'⟩
      · rw [ask_inside hctx hunit htime, ask_inside hctx hunit' htime']
        exact hserved ⟨u, hunit⟩
      · simp only [Store.ask, htime, htime', hctx, herror, herror']
        exact .answered _ h
    | none =>
      rw [hctx] at hserved
      have hopened := h.opened
      cases hs : s.opened <;> cases hs' : s'.opened <;> rw [hs, hs'] at hopened <;> cases hopened
      case none.none =>
        rw [ask_plain hctx hs htime, ask_plain hctx hs' htime']
        exact hserved hs
      case some.some =>
        simp only [Store.ask, htime, htime', hctx, hs, hs']
        exact .waiting

theorem Shuffled.begin (h : s.Shuffled s') (here : Nat) (order : RowOrder) :
    (s.begin here tick ctx).Alike (s'.begin here (tick.yielding order) ctx) := by
  have hopened := h.opened
  unfold Store.begin
  change Served.Alike _ (if ctx.isOver tick.now then _ else _)
  cases ctx.isOver tick.now with
  | true => exact .answered _ h
  | false =>
    cases hs : s.opened <;> cases hs' : s'.opened <;> rw [hs, hs'] at hopened <;> cases hopened
    case none.none => exact .answered _ ⟨h.tables, .some ⟨rfl, h.tables⟩⟩
    case some.some => exact .waiting

theorem Shuffled.commit (h : s.Shuffled s') (handle : Handle) :
    (s'.commit handle).1 = (s.commit handle).1 ∧
      (s.commit handle).2.Shuffled (s'.commit handle).2 := by
  unfold Store.commit
  rcases h.unitOf handle with ⟨u, u', hunit, hunit', _⟩ | ⟨e, herror, herror'⟩
  · rw [hunit, hunit']
    exact ⟨rfl, h.tables, .none⟩
  · rw [herror, herror']
    exact ⟨rfl, h⟩

theorem Shuffled.rollback (h : s.Shuffled s') (handle : Handle) :
    (s'.rollback handle).1 = (s.rollback handle).1 ∧
      (s.rollback handle).2.Shuffled (s'.rollback handle).2 := by
  unfold Store.rollback
  rcases h.unitOf handle with ⟨u, u', hunit, hunit', hsame⟩ | ⟨e, herror, herror'⟩
  · rw [hunit, hunit']
    exact ⟨rfl, hsame.snapshot, .none⟩
  · rw [herror, herror']
    exact ⟨rfl, h⟩

/-- The call inserts a profile whose contacts are torn. -/
def MeetsTorn (s : Store) (tick : Tick) (made : Call) : Prop :=
  ∃ ctx roleId new phone email, made = .ask ctx (.createProfile roleId new) ∧
    s.Torn tick ctx roleId new phone email

theorem Shuffled.serve (h : s.Shuffled s') (hkeyed : s.tables.Keyed) (hunique : s.tables.Unique)
    (here : Nat) (order : RowOrder) {made : Call} (hwhole : ¬s.MeetsTorn tick made) :
    (s.serve here tick made).Alike (s'.serve here (tick.yielding order) made) := by
  cases made with
  | ask ctx request =>
    refine h.ask hkeyed hunique order fun roleId new phone email hrequest htorn => ?_
    exact hwhole ⟨ctx, roleId, new, phone, email, by rw [hrequest], htorn⟩
  | begin ctx => exact h.begin here order
  | commit handle =>
    obtain ⟨hanswer, hafter⟩ := h.commit handle
    simp only [Store.serve, hanswer]
    exact .answered _ hafter
  | rollback handle =>
    obtain ⟨hanswer, hafter⟩ := h.rollback handle
    simp only [Store.serve, hanswer]
    exact .answered _ hafter

end Store

/-! ## Runs -/

/-- A run ends the same and leaves the same rows, or gets stuck both times. -/
inductive Program.Reply.Alike {α : Type} : Program.Reply Store α → Program.Reply Store α → Prop
  | ended (result : Result α) {s s' : Store} (h : s.Shuffled s') :
    Alike (.ended result s) (.ended result s')
  | stuck {s s' : Store} (h : s.Shuffled s') : Alike (.stuck s) (.stuck s')

/-- No profile with torn contacts is inserted in the course of a program. -/
def Course.MeetsNoTorn {α : Type} : Program α → Course → Prop
  | .done _, _ | .fail _, _ => True
  | .note _ next, c => MeetsNoTorn next c
  | .call made next, c =>
    ¬c.store.MeetsTorn (c.moments 0) made ∧
      match c.store.answer (c.moments 0) made with
      | .ended answer s => MeetsNoTorn (next answer) (c.after s)
      | .stuck _ => True

theorem CalledAnew.called {s : Store} (h : CalledAnew s) : Called s := by
  induction h with
  | empty => exact .refl
  | call tick made _ _ ih => exact ih.later (Store.later_answer _ tick made)
  | drop h _ ih => exact ih.later (.single (.drop h fun hnone => nomatch hnone))

theorem Called.unique {s : Store} (h : Called s) : s.Holds Tables.Unique :=
  h.holds Tables.unique_empty fun _ _ hunique => hunique.insertion

theorem Store.Shuffled.answer {s s' : Store} (h : s.Shuffled s') (hcalled : CalledAnew s)
    {tick : Tick} {made : Call} (order : RowOrder) (hwhole : ¬s.MeetsTorn tick made) :
    (s.answer tick made).Alike (s'.answer (tick.yielding order) made) := by
  have hserved := h.serve hcalled.distinct.now.keyed hcalled.called.unique.now 0 order hwhole
  unfold Store.answer
  generalize s.serve 0 tick made = served, s'.serve 0 (tick.yielding order) made = served'
    at hserved
  cases hserved with
  | answered answer hafter => exact .ended answer hafter
  | waiting =>
    cases World.deadlineOf made with
    | none => exact .stuck h
    | some deadline => exact .ended _ h

/-- A client that meets the same rows in another order, listed or yielded, at the same moments,
comes to the same result and leaves the same rows. -/
theorem Course.run_forgets_order {α : Type} (p : Program α) {c : Course} {s' : Store}
    (hcalled : CalledAnew c.store) (hfresh : c.Fresh p) (hwhole : c.MeetsNoTorn p)
    (hsame : c.store.Shuffled s') (orders : Nat → RowOrder) :
    (c.run p).Alike (Course.run ⟨s', fun n => (c.moments n).yielding (orders n)⟩ p) := by
  induction p generalizing c s' orders with
  | done a => exact .ended _ hsame
  | fail e => exact .ended _ hsame
  | note event next ih => exact ih hcalled hfresh hwhole hsame orders
  | call made next ih =>
    obtain ⟨hunused, hfreshAfter⟩ := Course.fresh_call.mp hfresh
    unfold Course.MeetsNoTorn at hwhole
    obtain ⟨hmade, hwholeAfter⟩ := hwhole
    have hafter := hcalled.call (c.moments 0) made fun _ _ _ => hunused
    have halike := hsame.answer hcalled (orders 0) hmade
    rw [Course.run_call, Course.run_call]
    change Program.Reply.Alike _
      (match s'.answer ((c.moments 0).yielding (orders 0)) made with
      | .ended answer s =>
        Course.run ⟨s, fun n => (c.moments (n + 1)).yielding (orders (n + 1))⟩ (next answer)
      | .stuck s => .stuck s)
    generalize c.store.answer (c.moments 0) made = reply,
      s'.answer ((c.moments 0).yielding (orders 0)) made = reply' at *
    cases halike with
    | stuck hstuck => exact .stuck hstuck
    | ended result hended =>
      exact ih result hafter hfreshAfter hwholeAfter hended fun n => orders (n + 1)

/-! ## Any order -/

end Registrar
