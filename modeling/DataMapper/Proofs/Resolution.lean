import DataMapper.Proofs.Sending
import DataMapper.Session

/-! # What resolving a descriptor does

In a slot whose cached descriptor is the built one, every attempt to resolve
has the outcome of building with the name set beforehand, through the slot and
through any object that remembers nothing else. The attempt leaves the built
descriptor behind, or no trace at all.
-/
namespace DataMapper

namespace Slot
variable {E : EntityType}

/-- A cached descriptor is the one that the slot would build. -/
def Sound (slot : Slot E) : Prop :=
  ∀ d, slot.descriptor? = some d → Descriptor.build E slot.override? = .ok d

def settled (slot : Slot E) : Slot E :=
  match Descriptor.build E slot.override? with
  | .ok d => { slot with descriptor? := some d }
  | .error _ => slot

@[simp] theorem override?_settled (slot : Slot E) : slot.settled.override? = slot.override? := by
  unfold settled
  split <;> rfl

theorem settled_of_error {slot : Slot E} {e : Failure}
    (h : Descriptor.build E slot.override? = .error e) : slot.settled = slot := by
  simp only [settled, h]

theorem Sound.descriptor?_settled {slot : Slot E} (h : slot.Sound) {d : Descriptor E} :
    slot.settled.descriptor? = some d ↔ Descriptor.build E slot.override? = .ok d := by
  unfold settled
  cases hb : Descriptor.build E slot.override? with
  | ok d' => simp
  | error e =>
    constructor
    · intro hd
      have := h d hd
      rw [hb] at this
      cases this
    · intro he
      cases he

theorem Sound.settled {slot : Slot E} (h : slot.Sound) : slot.settled.Sound := by
  intro d hd
  rw [override?_settled]
  exact h.descriptor?_settled.1 hd

theorem Sound.descriptor?_mono {slot : Slot E} (h : slot.Sound) {d : Descriptor E}
    (hd : slot.descriptor? = some d) : slot.settled.descriptor? = some d :=
  h.descriptor?_settled.2 (h d hd)

theorem Sound.resolve_eq {slot : Slot E} (h : slot.Sound) :
    slot.resolve = (Descriptor.build E slot.override?, slot.settled) := by
  unfold resolve
  cases hd : slot.descriptor? with
  | some d =>
    have hb := h d hd
    obtain ⟨override?, descriptor?⟩ := slot
    obtain rfl : descriptor? = some d := hd
    simp only [Slot.settled, hb]
  | none =>
    unfold Slot.settled
    cases hb : Descriptor.build E slot.override? with
    | ok d => rfl
    | error e => rfl

/-- A name is accepted exactly if it is not blank and nothing was set or built before. -/
theorem setTable_eq_ok_iff {slot : Slot E} {name : String} :
    (slot.setTable name).1 = .ok () ↔
      Text.isBlank name = false ∧ slot.override? = none ∧ slot.descriptor? = none := by
  unfold setTable Argument.text
  cases Text.isBlank name <;> cases slot.override? <;> cases slot.descriptor? <;> simp

theorem setTable_snd_of_ok {slot : Slot E} {name : String} (h : (slot.setTable name).1 = .ok ()) :
    (slot.setTable name).2 = { slot with override? := some name } := by
  obtain ⟨hblank, hoverride, hdescriptor⟩ := setTable_eq_ok_iff.1 h
  simp [setTable, Argument.text, hblank, hoverride, hdescriptor]

end Slot

namespace Dao
variable {E : EntityType}

def Follows (dao : Dao E) (slot : Slot E) : Prop :=
  ∀ d, dao.descriptor? = some d → slot.descriptor? = some d

def settled (dao : Dao E) (slot : Slot E) : Dao E :=
  match Descriptor.build E slot.override? with
  | .ok d => ⟨some d⟩
  | .error _ => dao

theorem settled_of_error {dao : Dao E} {slot : Slot E} {e : Failure}
    (h : Descriptor.build E slot.override? = .error e) : dao.settled slot = dao := by
  simp only [settled, h]

theorem Follows.settled {dao : Dao E} {slot : Slot E} (hd : dao.Follows slot) (hs : slot.Sound) :
    (dao.settled slot).Follows slot.settled := by
  intro d h
  cases hb : Descriptor.build E slot.override? with
  | ok d' =>
    simp only [Dao.settled, hb] at h
    exact hs.descriptor?_settled.2 (hb.trans (congrArg _ (Option.some.inj h)))
  | error e =>
    rw [settled_of_error hb] at h
    exact hs.descriptor?_mono (hd d h)

theorem Follows.resolve_eq {dao : Dao E} {slot : Slot E} (hd : dao.Follows slot)
    (hs : slot.Sound) :
    dao.resolve slot = (Descriptor.build E slot.override?, dao.settled slot, slot.settled) := by
  unfold resolve
  cases hdao : dao.descriptor? with
  | some d =>
    have hslot := hd d hdao
    have hb := hs d hslot
    obtain ⟨descriptor?⟩ := dao
    obtain rfl : descriptor? = some d := hdao
    obtain ⟨override?, cached?⟩ := slot
    obtain rfl : cached? = some d := hslot
    simp only [Dao.settled, Slot.settled, hb]
  | none =>
    simp only [hs.resolve_eq]
    cases hb : Descriptor.build E slot.override? with
    | ok d => simp only [Dao.settled, hb]
    | error e => simp only [Dao.settled, hb]

end Dao

namespace Operation
variable {E : EntityType}

/-- Operations that come to the mapping of their type. The others fail in the check of their
arguments, or never need a mapping. -/
def NeedsDescriptor {answer : Answer} : Operation E answer → Prop
  | insert r | insertDelayed r | update r | increment r _ | decrement r _ | incrementBy r _ _ =>
    (E.identifier r).isSome
  | minInt field _ | maxInt field _ | minLong field _ | maxLong field _ =>
    Text.isBlank field = false
  | delete _ | countSql _ => False
  | _ => True

/-- What comes after the check of an identified record is reached with its identifier. -/
theorem requireId_bind {α : Type} {r : E.Rec} {id : String} (hid : E.identifier r = some id)
    (next : String → Except Failure α) : (requireId r >>= next) = next id := by
  rw [requireId, hid]
  rfl

theorem requireId_bind_eq_mapped_iff {r : E.Rec} {f : Descriptor E → Except Failure Statement} :
    (∃ build, (requireId r >>= fun _ => pure (.mapped f) : Except Failure (Prepared E))
      = .ok (.mapped build)) ↔ (E.identifier r).isSome := by
  unfold requireId
  cases E.identifier r with
  | none =>
    constructor
    · rintro ⟨build, h⟩
      cases h
    · intro h
      cases h
  | some id => exact ⟨fun _ => rfl, fun _ => ⟨f, rfl⟩⟩

theorem prepareAggregate_eq_mapped_iff {f : Descriptor.Aggregate} {field : String} {c : Criteria} :
    (∃ build, prepareAggregate (E := E) f field c = .ok (.mapped build)) ↔
      Text.isBlank field = false := by
  unfold prepareAggregate Argument.text
  cases Text.isBlank field with
  | false => exact ⟨fun _ => rfl, fun _ => ⟨_, rfl⟩⟩
  | true =>
    constructor
    · rintro ⟨build, h⟩
      cases h
    · intro h
      cases h

theorem prepare_eq_mapped_iff (delayed : Bool) {answer : Answer} (op : Operation E answer) :
    (∃ build, op.prepare delayed = .ok (.mapped build)) ↔ op.NeedsDescriptor := by
  cases op with
  | insert | insertDelayed | update | increment | decrement | incrementBy =>
    exact requireId_bind_eq_mapped_iff
  | minInt | maxInt | minLong | maxLong => exact prepareAggregate_eq_mapped_iff
  | delete =>
    constructor
    · rintro ⟨build, h⟩
      cases h
    · exact False.elim
  | countSql text =>
    constructor
    · rintro ⟨build, h⟩
      have h' : (Argument.text text "sql" >>= fun t => pure (.ready (.raw t)) :
          Except Failure (Prepared E)) = .ok (.mapped build) := h
      cases ht : Argument.text text "sql" <;> rw [ht] at h' <;> cases h'
    · exact False.elim
  | _ => exact ⟨fun _ => trivial, fun _ => ⟨_, rfl⟩⟩

end Operation

namespace Dao
variable {E : EntityType} {σ : Type} {answer : Answer}

theorem plan_of_needsDescriptor (delayed : Bool) {op : Operation E answer}
    (h : op.NeedsDescriptor) (dao : Dao E) (slot : Slot E) :
    ∃ build, op.prepare delayed = .ok (.mapped build) ∧
      dao.plan delayed op slot = ((dao.resolve slot).1 >>= build, (dao.resolve slot).2) := by
  obtain ⟨build, hbuild⟩ := (op.prepare_eq_mapped_iff delayed).2 h
  refine ⟨build, hbuild, ?_⟩
  simp only [plan, hbuild]

theorem plan_snd_of_not_needsDescriptor (delayed : Bool) {op : Operation E answer}
    (h : ¬ op.NeedsDescriptor) (dao : Dao E) (slot : Slot E) :
    (dao.plan delayed op slot).2 = (dao, slot) := by
  unfold plan
  cases hp : op.prepare delayed with
  | error e => rfl
  | ok prepared =>
    cases prepared with
    | ready statement => rfl
    | mapped build => exact absurd ((op.prepare_eq_mapped_iff delayed).1 ⟨build, hp⟩) h

theorem plan_of_resolve {dao : Dao E} {slot : Slot E} {d : Descriptor E}
    (h : (dao.resolve slot).1 = .ok d) {delayed : Bool} {op : Operation E answer}
    {build : Descriptor E → Except Failure Statement}
    (hprepare : op.prepare delayed = .ok (.mapped build)) :
    dao.plan delayed op slot = (build d, (dao.resolve slot).2) := by
  simp only [plan, hprepare, h]
  rfl

variable (conn : Connection σ) (op : Operation E answer) (dao : Dao E) (slot : Slot E) (s : σ)

/-- Sending a statement does not touch the object or the slot. -/
theorem run_dao_slot :
    ((dao.run conn op slot s).2.1, (dao.run conn op slot s).2.2.1)
      = (dao.plan conn.delayedInsert op slot).2 := by
  cases h : (dao.plan conn.delayedInsert op slot).1 with
  | error e => rw [dao.run_of_plan_error conn op slot s h]
  | ok statement => rw [dao.run_of_plan_ok conn op slot s h]

/-- Only the planned statement decides the answer. -/
theorem run_fst_congr {dao' : Dao E} {slot' : Slot E}
    (h : (dao.plan conn.delayedInsert op slot).1 = (dao'.plan conn.delayedInsert op slot').1) :
    (dao.run conn op slot s).1 = (dao'.run conn op slot' s).1 := by
  cases hp : (dao.plan conn.delayedInsert op slot).1 with
  | error e =>
    rw [dao.run_of_plan_error conn op slot s hp,
      dao'.run_of_plan_error conn op slot' s (h.symm.trans hp)]
  | ok statement =>
    rw [dao.run_of_plan_ok conn op slot s hp, dao'.run_of_plan_ok conn op slot' s (h.symm.trans hp)]

/-- An operation that resolves a descriptor answers like one of an object that knows it. -/
theorem run_fst_of_resolve {op : Operation E answer} (hop : op.NeedsDescriptor) {d : Descriptor E}
    (h : (dao.resolve slot).1 = .ok d) :
    (dao.run conn op slot s).1 = (Dao.run conn op ⟨some d⟩ {} s).1 := by
  refine run_fst_congr conn op dao slot s ?_
  obtain ⟨build, hbuild, hplan⟩ := dao.plan_of_needsDescriptor conn.delayedInsert hop slot
  rw [hplan, h]
  simp only [plan, hbuild, resolve]

/-- An operation on a resolved descriptor sends the statement that is built from it. -/
theorem run_of_resolve {op : Operation E answer} {d : Descriptor E} {statement : Statement}
    {build : Descriptor E → Except Failure Statement} (h : (dao.resolve slot).1 = .ok d)
    (hprepare : op.prepare conn.delayedInsert = .ok (.mapped build))
    (hbuild : build d = .ok statement) :
    let sent : Except Failure (answer.Value E) × σ := Operation.perform conn statement s
    dao.run conn op slot s = (sent.1, (dao.resolve slot).2.1, (dao.resolve slot).2.2, sent.2) := by
  have hplan : dao.plan conn.delayedInsert op slot
      = (.ok statement, (dao.resolve slot).2) := by
    rw [plan_of_resolve h hprepare, hbuild]
  rw [dao.run_of_plan_ok conn op slot s (congrArg Prod.fst hplan), hplan]

/-- A descriptor that was resolved is resolved again. -/
theorem resolve_resolve {d : Descriptor E} (h : (dao.resolve slot).1 = .ok d) :
    ((dao.resolve slot).2.1.resolve (dao.resolve slot).2.2).1 = .ok d := by
  unfold resolve at h ⊢
  cases hd : dao.descriptor? with
  | some d' => simpa only [hd] using h
  | none =>
    simp only [hd] at h
    rcases hs : slot.resolve with ⟨resolved, slot'⟩
    cases resolved with
    | ok d' => simpa only [hs] using h
    | error e =>
      simp only [hs] at h
      cases h

end Dao

namespace Session
variable {ι σ : Type} {catalog : ι → EntityType} [DecidableEq ι]
variable (s : Session catalog σ) {i : ι}

@[simp] theorem setSlot_registry_same (slot : Slot (catalog i)) :
    (s.setSlot i slot).registry i = slot :=
  s.registry.set_same i slot

@[simp] theorem setDao_daos_same (n m : Nat) (dao : Dao (catalog i)) :
    (s.setDao i n dao).daos i m = if m = n then dao else s.daos i m := by
  simp [setDao]

theorem setSlot_registry_of_ne {j : ι} (h : j ≠ i) (slot : Slot (catalog i)) :
    (s.setSlot i slot).registry j = s.registry j :=
  s.registry.set_of_ne h slot

theorem setDao_daos_of_ne {j : ι} (h : j ≠ i) (n : Nat) (dao : Dao (catalog i)) :
    (s.setDao i n dao).daos j = s.daos j := by
  simp [setDao, h]

theorem setSlot_self : s.setSlot i (s.registry i) = s := by
  have h : s.registry.set i (s.registry i) = s.registry := by
    funext j
    by_cases hj : j = i
    · subst hj
      exact s.registry.set_same j _
    · exact s.registry.set_of_ne hj _
  simp only [setSlot, h]

theorem setDao_self (n : Nat) : s.setDao i n (s.daos i n) = s := by
  have h : (s.setDao i n (s.daos i n)).daos = s.daos := by
    funext j m
    by_cases hj : j = i
    · subst hj
      rw [setDao_daos_same]
      split
      · next hm => rw [hm]
      · rfl
    · rw [setDao_daos_of_ne s hj]
  simp only [setDao] at h ⊢
  rw [h]

variable (conn : Connection σ)

theorem step_registry_of_ne {x : Step catalog} (h : i ≠ x.entity) :
    (s.step conn x).2.registry i = s.registry i := by
  cases x with
  | setTable j name => exact s.setSlot_registry_of_ne h _
  | resolve j => exact s.setSlot_registry_of_ne h _
  | descriptor j n => exact s.setSlot_registry_of_ne h _
  | renew j n => rfl
  | copy j source target => rfl
  | run j n answer op => exact s.setSlot_registry_of_ne h _

theorem step_daos_of_ne {x : Step catalog} (h : i ≠ x.entity) :
    (s.step conn x).2.daos i = s.daos i := by
  cases x with
  | setTable j name => rfl
  | resolve j => rfl
  | descriptor j n => exact (s.setSlot j _).setDao_daos_of_ne h n _
  | renew j n => exact s.setDao_daos_of_ne h n _
  | copy j source target => exact s.setDao_daos_of_ne h target _
  | run j n answer op => exact (s.setSlot j _).setDao_daos_of_ne h n _

end Session
end DataMapper
