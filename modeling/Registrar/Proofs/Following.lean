import Registrar.Proofs.Sharing

/-!
# Reading while tables grow

A client that only reads sees tables that others add to between its look-ups.  What it comes
to depends on all the tables it has seen on the way, each of which has grown to the next one.
`Program.Follows` says what a program comes to for whatever it may see, and bounds the number
of its look-ups; a client among others keeps to it (`Client.Following.runs`).
-/

namespace Registrar

open Program

/-- All the tables that were seen have grown to `t`. -/
def Beyond (seen : List Tables) (t : Tables) : Prop :=
  ∀ t' ∈ seen, t'.GrowsTo t

theorem Beyond.grow {seen : List Tables} {t t' : Tables} (h : Beyond seen t)
    (hgrows : t.GrowsTo t') : Beyond seen t' :=
  fun t'' ht'' => (h t'' ht'').trans hgrows

theorem Beyond.snoc {seen : List Tables} {t : Tables} (h : Beyond seen t) :
    Beyond (seen ++ [t]) t := by
  intro t' ht'
  rcases List.mem_append.mp ht' with hold | hnew
  · exact h t' hold
  · rw [List.mem_singleton.mp hnew]
    exact .refl t

theorem Beyond.earlier {seen seen' : List Tables} {t : Tables} (h : Beyond seen' t)
    (hextends : seen <+: seen') : Beyond seen t :=
  fun t' ht' => h t' (hextends.subset ht')

namespace Program

variable {α β : Type} {ctx : Ctx} {most : Nat} {seen : List Tables}

/-- The program makes at most `most` look-ups in one context, those before included.  If each
is answered from tables that all the tables seen before have grown to, the program comes to a
value that is wanted of what it has seen. -/
def Follows (ctx : Ctx) (most : Nat) (wanted : List Tables → α → Prop) :
    Program α → List Tables → Prop
  | .done a, seen => wanted seen a
  | .fail _, _ => False
  | .note _ next, seen => next.Follows ctx most wanted seen
  | .call (.ask ctx' request) next, seen =>
    ctx' = ctx ∧ request.isLookup ∧ seen.length < most ∧
      ∀ t, Beyond seen t → ∀ stamp,
        (next (t.serve Memory.policy stamp request).1).Follows ctx most wanted (seen ++ [t])
  | .call _ _, _ => False

theorem follows_bind {p : Program α} {f : α → Program β} (middle : List Tables → α → Prop)
    {wanted : List Tables → β → Prop} (hp : p.Follows ctx most middle seen)
    (hf : ∀ seen' a, seen <+: seen' → middle seen' a → (f a).Follows ctx most wanted seen') :
    (p >>= f).Follows ctx most wanted seen := by
  change (p.bind f).Follows ctx most wanted seen
  induction p generalizing seen with
  | done a => exact hf seen a List.prefix_rfl hp
  | fail e => exact hp.elim
  | note event next ih => exact ih hp hf
  | call c next ih =>
    cases c with
    | begin _ | commit _ | rollback _ => exact hp.elim
    | ask ctx' request =>
      obtain ⟨hctx, hlookup, hroom, hserved⟩ := hp
      refine ⟨hctx, hlookup, hroom, fun t ht stamp => ih _ (hserved t ht stamp) ?_⟩
      exact fun seen' a hextends => hf seen' a ((List.prefix_append seen [t]).trans hextends)

/-- The program is one look-up, or comes to the same. -/
def Looks (ctx : Ctx) (p : Program α) (answer : Tables → α) : Prop :=
  ∀ (most : Nat) (wanted : List Tables → α → Prop) (seen : List Tables), seen.length < most →
    (∀ t, Beyond seen t → wanted (seen ++ [t]) (answer t)) → p.Follows ctx most wanted seen

theorem looks_ask {request : Request} {answer : Tables → request.Answer}
    (hlookup : request.isLookup)
    (hserved : ∀ (t : Tables) stamp,
      (t.serve Memory.policy stamp request).1 = .ok (answer t)) :
    (ask ctx request).Looks ctx answer := by
  intro most wanted seen hroom hwanted
  refine ⟨rfl, hlookup, hroom, fun t ht stamp => ?_⟩
  rw [hserved]
  exact hwanted t ht

/-- Left alone while no unit of work is open, the program gives a value. -/
theorem Follows.run {p : Program α} {wanted : List Tables → α → Prop} {s : Store}
    (h : p.Follows ctx most wanted seen) (hplain : ctx.handle = none)
    (htime : ctx.deadline = none) (hopened : s.opened = none) (hbeyond : Beyond seen s.standing)
    (moments : Nat → Tick) : ∃ a, Course.run ⟨s, moments⟩ p = .ended (.ok a) s := by
  induction p generalizing seen moments with
  | done a => exact ⟨a, rfl⟩
  | fail e => exact h.elim
  | note event next ih => exact ih h hbeyond moments
  | call c next ih =>
    cases c with
    | begin _ | commit _ | rollback _ => exact h.elim
    | ask ctx' request =>
      obtain ⟨rfl, hlookup, _, hserved⟩ := h
      have hadmits : s.Admits ctx' := by
        unfold Store.Admits
        rw [hplain]
        exact hopened
      have hnever : ctx'.isOver (moments 0).now = false := by
        rw [Ctx.isOver, htime]
        rfl
      have hstanding : s.standing = s.tables := by
        unfold Store.standing
        rw [hopened]
      rw [Course.run_call, Store.answer_lookup hlookup hadmits hnever, ← hstanding]
      exact ih _ (hserved _ hbeyond _) hbeyond.snoc _

end Program

namespace Client

variable {α : Type} {ctx : Ctx} {most : Nat} {wanted : List Tables → α → Prop}
  {log : List Passage}

/-- The tables that stood at each call of the client. -/
def seen (log : List Passage) : List Tables :=
  log.map Passage.before

/-- The client reads on, from tables that all it has seen have grown to. -/
structure Following (ctx : Ctx) (most : Nat) (wanted : List Tables → α → Prop)
    (log : List Passage) (c : Client α) : Prop where
  called : Called c.store
  beyond : Beyond (seen log) c.store.standing
  held : c.held = none
  few : log.length ≤ most
  rest : c.rest.Follows ctx most wanted (seen log)

theorem following_start {s : Store} {p : Program α} (hcalled : Called s)
    (hp : p.Follows ctx most wanted []) : Following ctx most wanted [] ⟨s, p, none⟩ :=
  ⟨hcalled, fun _ hnone => (nomatch hnone), rfl, Nat.zero_le _, hp⟩

theorem Following.call {s after : Store} {made : Call} {next : Result made.Answer → Program α}
    {held : Option Handle} {answer : Result made.Answer} {tick : Tick}
    (hplain : ctx.handle = none) (htime : ctx.deadline = none)
    (h : Following ctx most wanted log ⟨s, .call made next, held⟩)
    (hserved : s.serve 0 tick made = .answered answer after) :
    Following ctx most wanted (log ++ [⟨tick.now, s.standing, after.standing⟩])
      ⟨after, next answer, heldAfter held made answer⟩ := by
  have hrest := h.rest
  cases made with
  | begin _ | commit _ | rollback _ => exact hrest.elim
  | ask ctx' request =>
    obtain ⟨rfl, hlookup, hroom, hnext⟩ := hrest
    obtain ⟨rfl, ⟨hover, _⟩ | rfl⟩ := Store.serve_plain_lookup hplain hlookup hserved
    · rw [Ctx.isOver, htime] at hover
      cases hover
    · have hseen : seen (log ++ [⟨tick.now, after.standing, after.standing⟩]) =
          seen log ++ [after.standing] := List.map_append
      refine ⟨h.called, ?_, h.held, ?_, ?_⟩
      · rw [hseen]
        exact h.beyond.snoc
      · rw [seen, List.length_map] at hroom
        rw [List.length_append]
        exact hroom
      · rw [hseen]
        exact hnext _ h.beyond _

theorem Following.runs {c c' : Client α} (hplain : ctx.handle = none)
    (htime : ctx.deadline = none) (h : Following ctx most wanted [] c) (hruns : c.Runs log c') :
    Following ctx most wanted log c' := by
  induction hruns with
  | refl => exact h
  | note hruns ih => exact ⟨ih.called, ih.beyond, ih.held, ih.few, ih.rest⟩
  | call tick hruns hserved ih => exact ih.call hplain htime hserved
  | others hruns hstep ih =>
    have hgrows := (hstep.stands ih.called.ahead).1
    exact ⟨ih.called.later (.single hstep.any), ih.beyond.grow hgrows, ih.held, ih.few, ih.rest⟩

end Client

end Registrar
