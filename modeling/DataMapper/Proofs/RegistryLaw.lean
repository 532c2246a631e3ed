import DataMapper.Proofs.Resolution

/-! # The registry over whole runs

The answers of a registry are settled by the history of a run: a table name is
accepted once and only before the first resolution of its type, and every
resolution of a type has the outcome of building its descriptor with the name
accepted, whichever object asks. Nothing that is refused leaves a trace, and no
type depends on the steps about another.
-/
namespace DataMapper.Session
variable {ι σ : Type} {catalog : ι → EntityType} [DecidableEq ι] (conn : Connection σ)

def after (s : Session catalog σ) : List (Step catalog) → Session catalog σ
  | [] => s
  | x :: steps => (s.step conn x).2.after steps

def history (s : Session catalog σ) :
    List (Step catalog) → List (Session catalog σ × Step catalog)
  | [] => []
  | x :: steps => (s, x) :: (s.step conn x).2.history steps

/-- A step tries to resolve the descriptor of a type, with some outcome. An operation does so when
it gets past the check of its arguments: its object then asks for the descriptor. -/
inductive Attempts (s : Session catalog σ) :
    Step catalog → (i : ι) → Except Failure (Descriptor (catalog i)) → Prop
  | resolve (i : ι) : Attempts s (.resolve i) i (s.step conn (.resolve i)).1
  | descriptor (i : ι) (n : Nat) : Attempts s (.descriptor i n) i (s.step conn (.descriptor i n)).1
  | run (i : ι) (n : Nat) (answer : Answer) (op : Operation (catalog i) answer)
      (h : op.NeedsDescriptor) : Attempts s (.run i n answer op) i (s.step conn (.descriptor i n)).1

variable (past : List (Session catalog σ × Step catalog))

def Accepted (i : ι) (name : String) : Prop :=
  ∃ s, (s, Step.setTable i name) ∈ past ∧ (s.step conn (.setTable i name)).1 = .ok ()

def Resolved (i : ι) (d : Descriptor (catalog i)) : Prop :=
  ∃ s x, (s, x) ∈ past ∧ s.Attempts conn x i (.ok d)

variable {conn past} {s : Session catalog σ} {x : Step catalog} {i : ι}

theorem Attempts.entity {out : Except Failure (Descriptor (catalog i))}
    (h : s.Attempts conn x i out) : i = x.entity := by
  cases h <;> rfl

theorem accepted_append {name : String} :
    Accepted conn (past ++ [(s, x)]) i name ↔
      Accepted conn past i name ∨
        x = .setTable i name ∧ (s.step conn (.setTable i name)).1 = .ok () := by
  constructor
  · rintro ⟨t, ht, hok⟩
    rcases List.mem_append.1 ht with ht | ht
    · exact .inl ⟨t, ht, hok⟩
    · obtain ⟨rfl, rfl⟩ := Prod.mk.inj (List.mem_singleton.1 ht)
      exact .inr ⟨rfl, hok⟩
  · rintro (⟨t, ht, hok⟩ | ⟨rfl, hok⟩)
    · exact ⟨t, List.mem_append_left _ ht, hok⟩
    · exact ⟨s, List.mem_append_right _ List.mem_cons_self, hok⟩

theorem resolved_append {d : Descriptor (catalog i)} :
    Resolved conn (past ++ [(s, x)]) i d ↔
      Resolved conn past i d ∨ s.Attempts conn x i (.ok d) := by
  constructor
  · rintro ⟨t, y, ht, hd⟩
    rcases List.mem_append.1 ht with ht | ht
    · exact .inl ⟨t, y, ht, hd⟩
    · obtain ⟨rfl, rfl⟩ := Prod.mk.inj (List.mem_singleton.1 ht)
      exact .inr hd
  · rintro (⟨t, y, ht, hd⟩ | hd)
    · exact ⟨t, y, List.mem_append_left _ ht, hd⟩
    · exact ⟨s, x, List.mem_append_right _ List.mem_cons_self, hd⟩

/-- What a session holds of a type is what the steps before it have settled. -/
structure Recorded (conn : Connection σ) (past : List (Session catalog σ × Step catalog))
    (s : Session catalog σ) (i : ι) : Prop where
  sound : (s.registry i).Sound
  follows : ∀ n, (s.daos i n).Follows (s.registry i)
  accepted_iff : ∀ name, Accepted conn past i name ↔ (s.registry i).override? = some name
  resolved_iff : ∀ d, Resolved conn past i d ↔ (s.registry i).descriptor? = some d

namespace Recorded

theorem initial (u : σ) (i : ι) : Recorded conn [] ({ state := u } : Session catalog σ) i where
  sound := fun _ h => by cases h
  follows := fun _ _ h => by cases h
  accepted_iff := by
    intro name
    constructor
    · rintro ⟨t, ht, -⟩
      cases ht
    · intro h
      cases h
  resolved_iff := by
    intro d
    constructor
    · rintro ⟨t, x, ht, -⟩
      cases ht
    · intro h
      cases h

theorem other (h : Recorded conn past s i) (hi : i ≠ x.entity) :
    Recorded conn (past ++ [(s, x)]) (s.step conn x).2 i where
  sound := by
    rw [s.step_registry_of_ne conn hi]
    exact h.sound
  follows := by
    rw [s.step_registry_of_ne conn hi, s.step_daos_of_ne conn hi]
    exact h.follows
  accepted_iff := by
    intro name
    rw [accepted_append, s.step_registry_of_ne conn hi, ← h.accepted_iff]
    refine or_iff_left ?_
    rintro ⟨rfl, -⟩
    exact hi rfl
  resolved_iff := by
    intro d
    rw [resolved_append, s.step_registry_of_ne conn hi, ← h.resolved_iff]
    exact or_iff_left fun hd => hi hd.entity

/-- Every attempt has the outcome of building with the name set beforehand. -/
theorem outcome (h : Recorded conn past s i) {out : Except Failure (Descriptor (catalog i))}
    (hx : s.Attempts conn x i out) :
    out = Descriptor.build (catalog i) (s.registry i).override? := by
  cases hx with
  | resolve => exact congrArg Prod.fst h.sound.resolve_eq
  | descriptor _ n => exact congrArg Prod.fst ((h.follows n).resolve_eq h.sound)
  | run _ n => exact congrArg Prod.fst ((h.follows n).resolve_eq h.sound)

theorem override?_eq_none (h : Recorded conn past s i)
    (hnone : ∀ name, ¬ Accepted conn past i name) : (s.registry i).override? = none := by
  simp only [h.accepted_iff] at hnone
  exact Option.eq_none_iff_forall_ne_some.2 hnone

theorem resolved_of_attempt (h : Recorded conn past s i)
    {out : Except Failure (Descriptor (catalog i))} (hx : s.Attempts conn x i out)
    (d : Descriptor (catalog i)) :
    Resolved conn (past ++ [(s, x)]) i d ↔ (s.registry i).settled.descriptor? = some d := by
  rw [resolved_append, h.sound.descriptor?_settled]
  constructor
  · rintro (hd | hd)
    · exact h.sound d ((h.resolved_iff d).1 hd)
    · exact (h.outcome hd).symm
  · intro hd
    have hout : out = .ok d := (h.outcome hx).trans hd
    exact .inr (hout ▸ hx)

/-- An attempt leaves the slot settled, and each object as it was or settled with it. -/
theorem attempt (h : Recorded conn past s i) {out : Except Failure (Descriptor (catalog i))}
    (hx : s.Attempts conn x i out) {t : Session catalog σ}
    (hslot : t.registry i = (s.registry i).settled)
    (hdaos : ∀ n, t.daos i n = s.daos i n ∨ t.daos i n = (s.daos i n).settled (s.registry i)) :
    Recorded conn (past ++ [(s, x)]) t i where
  sound := by
    rw [hslot]
    exact h.sound.settled
  follows := by
    intro n
    rw [hslot]
    rcases hdaos n with hn | hn
    · rw [hn]
      exact fun d hd => h.sound.descriptor?_mono (h.follows n d hd)
    · rw [hn]
      exact (h.follows n).settled h.sound
  accepted_iff := by
    intro name
    rw [accepted_append, hslot, Slot.override?_settled, ← h.accepted_iff]
    refine or_iff_left ?_
    rintro ⟨rfl, -⟩
    cases hx
  resolved_iff := by
    intro d
    rw [hslot]
    exact h.resolved_of_attempt hx d

/-- A step that neither attempts to resolve nor is an accepted name keeps the slot. -/
theorem keep (h : Recorded conn past s i) (hx : ∀ out, ¬ s.Attempts conn x i out)
    (hname : ∀ name, x = .setTable i name → (s.step conn (.setTable i name)).1 ≠ .ok ())
    {t : Session catalog σ} (hslot : t.registry i = s.registry i)
    (hdaos : ∀ n, (t.daos i n).Follows (s.registry i)) :
    Recorded conn (past ++ [(s, x)]) t i where
  sound := by
    rw [hslot]
    exact h.sound
  follows := by
    rw [hslot]
    exact hdaos
  accepted_iff := by
    intro name
    rw [accepted_append, hslot, ← h.accepted_iff]
    exact or_iff_left fun ⟨hset, hok⟩ => hname name hset hok
  resolved_iff := by
    intro d
    rw [resolved_append, hslot, ← h.resolved_iff]
    exact or_iff_left (hx _)

/-- An accepted name finds a slot in which nothing was set or built. -/
theorem accept (h : Recorded conn past s i) {name : String}
    (hok : (s.step conn (.setTable i name)).1 = .ok ()) :
    Recorded conn (past ++ [(s, .setTable i name)]) (s.step conn (.setTable i name)).2 i := by
  have hanswer : ((s.registry i).setTable name).1 = .ok () := hok
  obtain ⟨-, hoverride, hdescriptor⟩ := Slot.setTable_eq_ok_iff.1 hanswer
  have hslot : (s.step conn (.setTable i name)).2.registry i =
      { s.registry i with override? := some name } :=
    (s.setSlot_registry_same _).trans (Slot.setTable_snd_of_ok hanswer)
  have hnone : ((s.step conn (.setTable i name)).2.registry i).descriptor? = none := by
    rw [hslot]
    exact hdescriptor
  constructor
  · intro d hd
    rw [hnone] at hd
    cases hd
  · intro n d hd
    have hold := h.follows n d hd
    rw [hdescriptor] at hold
    cases hold
  · intro other
    rw [accepted_append, h.accepted_iff, hslot, hoverride]
    constructor
    · rintro (hother | ⟨hset, -⟩)
      · cases hother
      · cases hset
        rfl
    · intro hother
      cases hother
      exact .inr ⟨rfl, hok⟩
  · intro d
    rw [resolved_append, h.resolved_iff, hdescriptor, hnone]
    refine or_iff_left ?_
    intro hd
    cases hd

theorem own_setTable (h : Recorded conn past s i) (name : String) :
    Recorded conn (past ++ [(s, .setTable i name)]) (s.step conn (.setTable i name)).2 i := by
  cases hok : (s.step conn (.setTable i name)).1 with
  | ok u => exact h.accept hok
  | error e =>
    have hslot : ((s.registry i).setTable name).2 = s.registry i := Slot.setTable_snd_of_error hok
    refine h.keep (fun out hx => by cases hx) ?_ ((s.setSlot_registry_same _).trans hslot) h.follows
    intro other hset hother
    cases hset
    rw [hok] at hother
    cases hother

omit [DecidableEq ι] in
theorem follows_empty (slot : Slot (catalog i)) : ({} : Dao (catalog i)).Follows slot := by
  intro d hd
  cases hd

theorem follows_setDao {slot : Slot (catalog i)} {t : Session catalog σ} {dao : Dao (catalog i)}
    (ht : ∀ n, (t.daos i n).Follows slot) (hdao : dao.Follows slot) (n m : Nat) :
    ((t.setDao i n dao).daos i m).Follows slot := by
  rw [setDao_daos_same]
  split
  · exact hdao
  · exact ht m

/-- Only the object that was asked is settled. -/
theorem setDao_settled (s : Session catalog σ) (slot : Slot (catalog i)) (n m : Nat) :
    (s.setDao i n ((s.daos i n).settled slot)).daos i m = s.daos i m ∨
      (s.setDao i n ((s.daos i n).settled slot)).daos i m = (s.daos i m).settled slot := by
  rw [setDao_daos_same]
  split
  · next hm => exact .inr (by rw [hm])
  · exact .inl rfl

theorem own_run (h : Recorded conn past s i) (n : Nat) {answer : Answer}
    (op : Operation (catalog i) answer) :
    Recorded conn (past ++ [(s, .run i n answer op)]) (s.step conn (.run i n answer op)).2 i := by
  have hrun := (s.daos i n).run_dao_slot conn op (s.registry i) s.state
  have hslot : (s.step conn (.run i n answer op)).2.registry i =
      ((s.daos i n).plan conn.delayedInsert op (s.registry i)).2.2 :=
    (s.setSlot_registry_same _).trans (congrArg Prod.snd hrun)
  have hdaos : (s.step conn (.run i n answer op)).2.daos =
      (s.setDao i n ((s.daos i n).plan conn.delayedInsert op (s.registry i)).2.1).daos := by
    rw [← congrArg Prod.fst hrun]
    rfl
  by_cases hop : op.NeedsDescriptor
  · obtain ⟨build, -, hplan⟩ :=
      (s.daos i n).plan_of_needsDescriptor conn.delayedInsert hop (s.registry i)
    rw [hplan, (h.follows n).resolve_eq h.sound] at hslot hdaos
    refine h.attempt (.run i n answer op hop) hslot ?_
    rw [hdaos]
    exact setDao_settled s (s.registry i) n
  · have hplan := (s.daos i n).plan_snd_of_not_needsDescriptor conn.delayedInsert hop
      (s.registry i)
    rw [hplan] at hslot hdaos
    refine h.keep (fun out hx => ?_) (fun name hset => by cases hset) hslot ?_
    · cases hx with
      | run _ _ _ _ hneeds => exact hop hneeds
    · rw [hdaos]
      exact follows_setDao h.follows (h.follows n) n

/-- Every step of the type itself keeps the record true. -/
theorem own (h : Recorded conn past s x.entity) :
    Recorded conn (past ++ [(s, x)]) (s.step conn x).2 x.entity := by
  cases x with
  | setTable i name => exact own_setTable h name
  | resolve i =>
    have hi : Recorded conn past s i := h
    refine hi.attempt (.resolve i) ?_ fun n => .inl rfl
    exact (s.setSlot_registry_same _).trans (congrArg Prod.snd hi.sound.resolve_eq)
  | descriptor i n =>
    have hi : Recorded conn past s i := h
    have hresolve := (hi.follows n).resolve_eq hi.sound
    refine hi.attempt (.descriptor i n) ?_ ?_
    · exact (s.setSlot_registry_same _).trans (congrArg (fun r => r.2.2) hresolve)
    · intro m
      have hdao : (s.step conn (.descriptor i n)).2.daos =
          (s.setDao i n ((s.daos i n).resolve (s.registry i)).2.1).daos := rfl
      rw [hdao, hresolve]
      exact setDao_settled s (s.registry i) n m
  | renew i n =>
    have hi : Recorded conn past s i := h
    refine hi.keep (fun out hx => by cases hx) (fun name hset => by cases hset) rfl ?_
    exact follows_setDao hi.follows (follows_empty _) n
  | copy i source target =>
    have hi : Recorded conn past s i := h
    refine hi.keep (fun out hx => by cases hx) (fun name hset => by cases hset) rfl ?_
    exact follows_setDao hi.follows (hi.follows source) target
  | run i n answer op => exact own_run h n op

theorem step (h : Recorded conn past s i) : Recorded conn (past ++ [(s, x)]) (s.step conn x).2 i := by
  by_cases hi : i = x.entity
  · subst hi
    exact h.own
  · exact h.other hi

theorem run (h : Recorded conn past s i) (steps : List (Step catalog)) :
    Recorded conn (past ++ s.history conn steps) (s.after conn steps) i := by
  -- each step moves from the steps ahead to the end of the past
  induction steps generalizing past s with
  | nil =>
    rw [history, List.append_nil]
    exact h
  | cons x steps ih =>
    have hrest := ih (h.step (x := x))
    rw [List.append_assoc] at hrest
    exact hrest

end Recorded

/-! ## Types do not depend on each other -/

structure AgreeOn (s t : Session catalog σ) (i : ι) : Prop where
  registry : s.registry i = t.registry i
  daos : s.daos i = t.daos i

namespace AgreeOn
variable {t : Session catalog σ}

omit [DecidableEq ι] in
theorem symm (h : AgreeOn s t i) : AgreeOn t s i :=
  ⟨h.registry.symm, h.daos.symm⟩

omit [DecidableEq ι] in
theorem trans {u : Session catalog σ} (h : AgreeOn s t i) (h' : AgreeOn t u i) : AgreeOn s u i :=
  ⟨h.registry.trans h'.registry, h.daos.trans h'.daos⟩

theorem step_other (s : Session catalog σ) (hi : i ≠ x.entity) :
    AgreeOn (s.step conn x).2 s i :=
  ⟨s.step_registry_of_ne conn hi, s.step_daos_of_ne conn hi⟩

theorem setSlot (h : AgreeOn s t i) (slot : Slot (catalog i)) :
    AgreeOn (s.setSlot i slot) (t.setSlot i slot) i where
  registry := (s.setSlot_registry_same slot).trans (t.setSlot_registry_same slot).symm
  daos := h.daos

theorem setDao (h : AgreeOn s t i) (n : Nat) (dao : Dao (catalog i)) :
    AgreeOn (s.setDao i n dao) (t.setDao i n dao) i where
  registry := h.registry
  daos := by
    funext m
    rw [setDao_daos_same, setDao_daos_same, h.daos]

/-- A step about the type does the same on both sides, whatever the databases hold. -/
theorem step_own (h : AgreeOn s t x.entity) :
    AgreeOn (s.step conn x).2 (t.step conn x).2 x.entity := by
  cases x with
  | setTable i name =>
    have hi : AgreeOn s t i := h
    have hs : (s.step conn (.setTable i name)).2 =
        s.setSlot i ((t.registry i).setTable name).2 := by
      rw [← hi.registry]
      rfl
    rw [hs]
    exact hi.setSlot _
  | resolve i =>
    have hi : AgreeOn s t i := h
    have hs : (s.step conn (.resolve i)).2 = s.setSlot i (t.registry i).resolve.2 := by
      rw [← hi.registry]
      rfl
    rw [hs]
    exact hi.setSlot _
  | descriptor i n =>
    have hi : AgreeOn s t i := h
    have hs : (s.step conn (.descriptor i n)).2 =
        (s.setSlot i ((t.daos i n).resolve (t.registry i)).2.2).setDao i n
          ((t.daos i n).resolve (t.registry i)).2.1 := by
      rw [← hi.registry, ← hi.daos]
      rfl
    rw [hs]
    exact (hi.setSlot _).setDao n _
  | renew i n =>
    have hi : AgreeOn s t i := h
    exact hi.setDao n {}
  | copy i source target =>
    have hi : AgreeOn s t i := h
    have hs : (s.step conn (.copy i source target)).2 =
        s.setDao i target (t.daos i source) := by
      rw [← hi.daos]
      rfl
    rw [hs]
    exact hi.setDao target _
  | run i n answer op =>
    have hi : AgreeOn s t i := h
    have hrun : ∀ u : Session catalog σ, AgreeOn (u.step conn (.run i n answer op)).2
        ((u.setSlot i ((u.daos i n).plan conn.delayedInsert op (u.registry i)).2.2).setDao i n
          ((u.daos i n).plan conn.delayedInsert op (u.registry i)).2.1) i := by
      intro u
      rw [← (u.daos i n).run_dao_slot conn op (u.registry i) u.state]
      exact ⟨rfl, rfl⟩
    have hplan := (hi.setSlot ((t.daos i n).plan conn.delayedInsert op (t.registry i)).2.2).setDao n
      ((t.daos i n).plan conn.delayedInsert op (t.registry i)).2.1
    have hs := hrun s
    rw [hi.registry, hi.daos] at hs
    exact (hs.trans hplan).trans (hrun t).symm

/-- Leaving out the steps about other types makes no difference. -/
theorem after_filter (h : AgreeOn s t i) (steps : List (Step catalog)) :
    AgreeOn (s.after conn steps) (t.after conn (steps.filter fun x => x.entity = i)) i := by
  induction steps generalizing s t with
  | nil => exact h
  | cons x steps ih =>
    by_cases hi : x.entity = i
    · subst hi
      rw [List.filter_cons_of_pos (by simp)]
      exact ih h.step_own
    · rw [List.filter_cons_of_neg (by simpa using hi)]
      exact ih ((step_other s (Ne.symm hi)).trans h)

theorem answer_eq (h : AgreeOn s t x.entity) (v : σ) :
    (step conn { s with state := v } x).1 = (step conn { t with state := v } x).1 := by
  cases x with
  | setTable i name =>
    have hi : AgreeOn s t i := h
    change ((s.registry i).setTable name).1 = ((t.registry i).setTable name).1
    rw [hi.registry]
  | resolve i =>
    have hi : AgreeOn s t i := h
    change (s.registry i).resolve.1 = (t.registry i).resolve.1
    rw [hi.registry]
  | descriptor i n =>
    have hi : AgreeOn s t i := h
    change ((s.daos i n).resolve (s.registry i)).1 = ((t.daos i n).resolve (t.registry i)).1
    rw [hi.registry, hi.daos]
  | renew i n => rfl
  | copy i source target => rfl
  | run i n answer op =>
    have hi : AgreeOn s t i := h
    change ((s.daos i n).run conn op (s.registry i) v).1 = ((t.daos i n).run conn op (t.registry i) v).1
    rw [hi.registry, hi.daos]

end AgreeOn

/-! ## The law -/

theorem mem_history {steps : List (Step catalog)} {t : Session catalog σ}
    (h : (t, x) ∈ s.history conn steps) : ∃ earlier, t = s.after conn earlier := by
  induction steps generalizing s with
  | nil => cases h
  | cons y steps ih =>
    rcases List.mem_cons.1 h with h | h
    · obtain ⟨rfl, -⟩ := Prod.mk.inj h
      exact ⟨[], rfl⟩
    · obtain ⟨earlier, rfl⟩ := ih h
      exact ⟨y :: earlier, rfl⟩

/-- Whether a descriptor can be built, and why not, hangs on the type alone. -/
theorem build_ok_or_error (E : EntityType) :
    (∀ override?, ∃ d, Descriptor.build E override? = .ok d) ∨
      ∃ fault, ∀ override?, Descriptor.build E override? = .error (.mapping fault) := by
  -- building looks at the number of identifier columns only
  rcases h : E.columns.filter Column.isId with _ | ⟨c, _ | ⟨c', rest⟩⟩
  · right
    refine ⟨.noIdentifier E.name, fun override? => ?_⟩
    unfold Descriptor.build
    split <;> simp_all
  · left
    exact fun override? => ⟨_, Descriptor.build_of_filter_isId h override?⟩
  · right
    refine ⟨.manyIdentifiers E.name, fun override? => ?_⟩
    unfold Descriptor.build
    split <;> simp_all

/-- A failed attempt is the answer of its step and leaves the session as it was. -/
theorem Attempts.step_eq_of_error (h : Recorded conn past s i) {e : Failure}
    (hx : s.Attempts conn x i (.error e)) :
    (s.step conn x).1 = .error e ∧ (s.step conn x).2 = s := by
  have hbuild := (h.outcome hx).symm
  have hslot : (s.registry i).settled = s.registry i := Slot.settled_of_error hbuild
  have hdao : ∀ n, (s.daos i n).resolve (s.registry i) = (.error e, s.daos i n, s.registry i) := by
    intro n
    rw [(h.follows n).resolve_eq h.sound, hbuild, hslot, Dao.settled_of_error hbuild]
  generalize hout : (Except.error e : Except Failure (Descriptor (catalog i))) = out at hx
  cases hx with
  | resolve =>
    refine ⟨hout.symm, ?_⟩
    have hresolve : (s.registry i).resolve.2 = s.registry i := by
      rw [h.sound.resolve_eq, hslot]
    change s.setSlot i (s.registry i).resolve.2 = s
    rw [hresolve, setSlot_self]
  | descriptor _ n =>
    refine ⟨hout.symm, ?_⟩
    change (s.setSlot i ((s.daos i n).resolve (s.registry i)).2.2).setDao i n
      ((s.daos i n).resolve (s.registry i)).2.1 = s
    rw [hdao n, setSlot_self, setDao_self]
  | run _ n answer op hop =>
    obtain ⟨build, -, hplan⟩ :=
      (s.daos i n).plan_of_needsDescriptor conn.delayedInsert hop (s.registry i)
    rw [hdao n] at hplan
    have hfail : ((s.daos i n).plan conn.delayedInsert op (s.registry i)).1 = .error e := by
      rw [hplan]
      rfl
    have hrun : (s.daos i n).run conn op (s.registry i) s.state =
        (.error e, s.daos i n, s.registry i, s.state) := by
      rw [(s.daos i n).run_of_plan_error conn op (s.registry i) s.state hfail, hplan]
    constructor
    · exact congrArg Prod.fst hrun
    · change { (s.setSlot i ((s.daos i n).run conn op (s.registry i) s.state).2.2.1).setDao i n
        ((s.daos i n).run conn op (s.registry i) s.state).2.1 with
        state := ((s.daos i n).run conn op (s.registry i) s.state).2.2.2 } = s
      rw [hrun, setSlot_self, setDao_self]

structure RegistryLaw (conn : Connection σ) (start : Session catalog σ)
    (steps : List (Step catalog)) (i : ι) : Prop where
  /-- A table name is accepted exactly if it is not blank, none was accepted before, and the
  descriptor was not resolved before. -/
  setTable_eq_ok_iff : ∀ name,
    ((start.after conn steps).step conn (.setTable i name)).1 = .ok () ↔
      Text.isBlank name = false ∧ (∀ other, ¬ Accepted conn (start.history conn steps) i other) ∧
        ∀ d, ¬ Resolved conn (start.history conn steps) i d
  /-- Every descriptor that was resolved is the one built with the accepted name, -/
  build_accepted : ∀ d, Resolved conn (start.history conn steps) i d → ∀ name,
    Accepted conn (start.history conn steps) i name →
      Descriptor.build (catalog i) (some name) = .ok d
  /-- or with none, if none was accepted, -/
  build_none : ∀ d, Resolved conn (start.history conn steps) i d →
    (∀ name, ¬ Accepted conn (start.history conn steps) i name) →
      Descriptor.build (catalog i) none = .ok d
  /-- and it is always the same. -/
  resolved_unique : ∀ d d', Resolved conn (start.history conn steps) i d →
    Resolved conn (start.history conn steps) i d' → d = d'
  /-- The next attempt builds with the accepted name, -/
  attempt_accepted : ∀ x out, (start.after conn steps).Attempts conn x i out → ∀ name,
    Accepted conn (start.history conn steps) i name →
      out = Descriptor.build (catalog i) (some name)
  /-- or with none, if none was accepted, -/
  attempt_none : ∀ x out, (start.after conn steps).Attempts conn x i out →
    (∀ name, ¬ Accepted conn (start.history conn steps) i name) →
      out = Descriptor.build (catalog i) none
  /-- and gives a descriptor whenever the type has one under any name. -/
  attempt_ok : ∀ override? d, Descriptor.build (catalog i) override? = .ok d →
    ∀ x out, (start.after conn steps).Attempts conn x i out → ∃ d', out = .ok d'
  /-- An operation that resolves a descriptor answers like one of an object that knows it. -/
  operation : ∀ n answer (op : Operation (catalog i) answer) d,
    (start.after conn steps).Attempts conn (.run i n answer op) i (.ok d) →
      ((start.after conn steps).step conn (.run i n answer op)).1 =
        (Dao.run conn op ⟨some d⟩ {} (start.after conn steps).state).1
  /-- A rejected table name leaves the session as it was, -/
  rejected : ∀ name e, ((start.after conn steps).step conn (.setTable i name)).1 = .error e →
    ((start.after conn steps).step conn (.setTable i name)).2 = start.after conn steps
  /-- and so does a failed resolution, whose failure is the answer. -/
  failed : ∀ x e, (start.after conn steps).Attempts conn x i (.error e) →
    ((start.after conn steps).step conn x).1 = .error e ∧
      ((start.after conn steps).step conn x).2 = start.after conn steps
  /-- Either every attempt to resolve succeeds, or every attempt fails for the mapping. -/
  attempts :
    (∀ s x out, (s, x) ∈ start.history conn steps → s.Attempts conn x i out → ∃ d, out = .ok d) ∨
    (∀ s x out, (s, x) ∈ start.history conn steps → s.Attempts conn x i out →
      ∃ fault, out = .error (.mapping fault))
  /-- On the same database, every step about the type is answered as after any other run with the
  same steps about the type. -/
  independent : ∀ (u : σ) steps',
    steps'.filter (fun x => x.entity = i) = steps.filter (fun x => x.entity = i) →
      ∀ (x : Step catalog) v, x.entity = i →
        (step conn { start.after conn steps with state := v } x).1 =
          (step conn { ({ state := u } : Session catalog σ).after conn steps' with state := v } x).1

/-- The law holds for every type after every run from an empty registry. -/
theorem registryLaw (conn : Connection σ) (u : σ) (steps : List (Step catalog)) (i : ι) :
    RegistryLaw conn { state := u } steps i := by
  have recorded : ∀ earlier : List (Step catalog),
      Recorded conn (({ state := u } : Session catalog σ).history conn earlier)
        (({ state := u } : Session catalog σ).after conn earlier) i := by
    intro earlier
    exact (Recorded.initial u i).run earlier
  have h := recorded steps
  have hbuilt : ∀ d, Resolved conn (({ state := u } : Session catalog σ).history conn steps) i d →
      Descriptor.build (catalog i)
        ((({ state := u } : Session catalog σ).after conn steps).registry i).override? = .ok d :=
    fun d hd => h.sound d ((h.resolved_iff d).1 hd)
  constructor
  case setTable_eq_ok_iff =>
    intro name
    refine Slot.setTable_eq_ok_iff.trans (and_congr_right fun _ => and_congr ?_ ?_)
    · simp only [h.accepted_iff, Option.eq_none_iff_forall_ne_some]
    · simp only [h.resolved_iff, Option.eq_none_iff_forall_ne_some]
  case build_accepted =>
    intro d hd name hname
    rw [← (h.accepted_iff name).1 hname]
    exact hbuilt d hd
  case build_none =>
    intro d hd hnone
    rw [← h.override?_eq_none hnone]
    exact hbuilt d hd
  case resolved_unique =>
    intro d d' hd hd'
    exact Except.ok.inj ((hbuilt d hd).symm.trans (hbuilt d' hd'))
  case attempt_accepted =>
    intro x out hx name hname
    rw [← (h.accepted_iff name).1 hname]
    exact h.outcome hx
  case attempt_none =>
    intro x out hx hnone
    rw [← h.override?_eq_none hnone]
    exact h.outcome hx
  case attempt_ok =>
    intro override? d hd x out hx
    rcases build_ok_or_error (catalog i) with hok | ⟨fault, hfault⟩
    · rw [h.outcome hx]
      exact hok _
    · rw [hfault override?] at hd
      cases hd
  case operation =>
    intro n answer op d hd
    generalize hout : (Except.ok d : Except Failure (Descriptor (catalog i))) = out at hd
    cases hd with
    | run _ _ _ _ hop => exact Dao.run_fst_of_resolve conn _ _ _ hop hout.symm
  case rejected =>
    intro name e he
    have hslot := Slot.setTable_snd_of_error he
    change Session.setSlot _ i (Slot.setTable _ name).2 = _
    rw [hslot, setSlot_self]
  case failed =>
    intro x e he
    exact he.step_eq_of_error h
  case attempts =>
    have houtcome : ∀ s x out, (s, x) ∈ ({ state := u } : Session catalog σ).history conn steps →
        s.Attempts conn x i out → ∃ override?, out = Descriptor.build (catalog i) override? := by
      intro s x out hmem hx
      obtain ⟨earlier, rfl⟩ := mem_history hmem
      exact ⟨_, (recorded earlier).outcome hx⟩
    rcases build_ok_or_error (catalog i) with hok | ⟨fault, hfault⟩
    · left
      intro s x out hmem hx
      obtain ⟨override?, rfl⟩ := houtcome s x out hmem hx
      exact hok override?
    · right
      intro s x out hmem hx
      obtain ⟨override?, rfl⟩ := houtcome s x out hmem hx
      exact ⟨fault, hfault override?⟩
  case independent =>
    intro u' steps' hfilter x v hi
    subst hi
    have hstart : AgreeOn ({ state := u } : Session catalog σ) { state := u' } x.entity := ⟨rfl, rfl⟩
    have hsame : AgreeOn ({ state := u' } : Session catalog σ) { state := u' } x.entity := ⟨rfl, rfl⟩
    have hleft : AgreeOn (({ state := u } : Session catalog σ).after conn steps) _ x.entity :=
      hstart.after_filter steps
    have hright : AgreeOn (({ state := u' } : Session catalog σ).after conn steps') _ x.entity :=
      hsame.after_filter steps'
    rw [hfilter] at hright
    exact (hleft.trans hright.symm).answer_eq v

end DataMapper.Session
