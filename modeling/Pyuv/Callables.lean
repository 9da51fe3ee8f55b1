-- The callables that the trampolines call (src/check.c, idle.c, prepare.c, timer.c, poll.c,
-- signal.c, fs.c, stream.c, udp.c, tcp.c and pipe.c): each is read from a field of the handle, with
-- no reference of its own for the call, and may give up the field while it runs.
import Pyuv.Lib.Runs
import Pyuv.MethodRefs

set_option linter.style.nameCheck false

namespace pyuv.callables

open methods runs holders

/-! ## A call -/

/-- What libuv calls for an event of a handle. -/
inductive Trampoline where
  | pyuv__check_cb | pyuv__idle_cb | pyuv__prepare_cb | pyuv__timer_cb | pyuv__poll_cb
  | pyuv__signal_cb | pyuv__fsevent_cb | pyuv__fspoll_cb
  | pyuv__stream_read_cb | pyuv__udp_recv_cd
  | pyuv__tcp_listen_cb | pyuv__pipe_listen_cb
deriving DecidableEq, Repr

/-- The field that it finds the callable in. -/
def Trampoline.field : Trampoline → Slot
  | .pyuv__stream_read_cb | .pyuv__udp_recv_cd => .on_read_cb
  | .pyuv__tcp_listen_cb | .pyuv__pipe_listen_cb => .on_new_connection_cb
  | _ => .callback

/-- Py_INCREF(self), before the call. No reference to the callable is taken. -/
def entered (self : Ptr) (w : World) : World := w.take [self]

/-- What may happen while the callable runs: it calls a method, or pyuv does something else that
sets a field of an object, takes references or gives references back. `World.refs` counts the
references of pyuv, so what the callable does with its own does not show. -/
inductive Act where
  | method (E : Env) (self : Ptr) (m : Method)
  | set (p : Ptr) (slot : Slot) (value : Option Ptr)
  | take (ps : List Ptr)
  | give (ps : List Ptr)

/-- The fields of an object that hold a reference. -/
def slots : List Slot :=
  [.callback, .on_read_cb, .on_new_connection_cb, .on_close_cb, .on_exit_cb, .stdio, .loop, .dict]

/-- A place for a new object. -/
def Vacant (w : World) (p : Ptr) : Prop :=
  w.refs p = 0 ∧ ∀ slot ∈ slots, (w.sides p).slot slot = none

instance {w : World} {p : Ptr} : Decidable (Vacant w p) :=
  inferInstanceAs (Decidable (w.refs p = 0 ∧ ∀ slot ∈ slots, (w.sides p).slot slot = none))

/-- A crash ends the process. -/
def step (w : World) : Act → Option World
  | .method E self m => if Vacant w E.fresh then left (m.exec E self w) else none
  | .set p slot value => some (w.put p slot value)
  | .take ps => some (w.take ps)
  | .give ps => some (w.drop ps)

/-- pyuv has a reference to the callable. -/
def Owned (c : Ptr) (w : World) : Prop := 0 < w.refs c

/-! ## What a callable may do -/

/-- The references that an act gives back, and those that it takes for them. -/
def Act.given (w : World) : Act → List Ptr
  | .method E self m =>
    match m.change E w self with
    | some change => change.given self w
    | none => []
  | .set p slot _ => ((w.sides p).slot slot).toList
  | .take _ => []
  | .give ps => ps

/-- The references that the act takes to keep something in a field. -/
def Act.taken (w : World) : Act → List Ptr
  | .method E self m =>
    match m.change E w self with
    | some change => change.taken self w
    | none => []
  | .set _ _ value => value.toList
  | .take ps => ps
  | .give _ => []

/-- The act does not give back the last reference to the callable. -/
def Spares (c : Ptr) (w : World) (act : Act) : Prop :=
  (act.given w).count c < w.refs c + (act.taken w).count c

/-- The act leaves the callable in the field of the handle: it does not stop the handle, nor start
it with another callable. Of references that no field holds pyuv may give back as many as there
are. -/
def Leaves (self : Ptr) (slot : Slot) (c : Ptr) (w : World) : Act → Prop
  | .method E p m => p = self → ∀ change value, m.change E w p = some change →
    change.field = some (slot, value) → value = some c
  | .set p slot' value => p = self → slot' = slot → value = some c
  | .take _ => True
  | .give ps => (w.drop ps).Covered c

variable {s t w : World} {self c : Ptr} {act : Act} {E : Env}

/-- A callable that is owned is no object that is still to be made. -/
theorem ne_of_vacant {p : Ptr} (hvacant : Vacant w p) (howned : Owned c w) : c ≠ p := by
  rintro rfl
  have hrefs := hvacant.1
  unfold Owned at howned
  omega

/-- A method that runs to its end, on an object that it may make anew. -/
theorem method_step {p : Ptr} {m : Method} (h : step s (.method E p m) = some t) :
    Vacant s E.fresh ∧ left (m.exec E p s) = some t := by
  unfold step at h
  dsimp only at h
  split at h
  · exact ⟨‹_›, h⟩
  · cases h

/-- What one act does. -/
theorem step_owned_iff (howned : Owned c s) (h : step s act = some t) :
    Owned c t ↔ Spares c s act := by
  unfold Owned at howned
  unfold Owned Spares
  cases act with
  | method E p m =>
    obtain ⟨hvacant, hleft⟩ := method_step h
    have hfollows := m.follows p s (ne_of_vacant hvacant howned)
    unfold Act.given Act.taken
    dsimp only
    cases hchange : m.change E s p with
    | none =>
      rw [hchange] at hfollows
      have hrefs := (hfollows t hleft).refs
      simp only [List.count_nil]
      omega
    | some change =>
      rw [hchange] at hfollows
      obtain ⟨-, hrefs⟩ := hfollows t hleft
      rw [apply_refs] at hrefs
      dsimp only
      omega
  | set p slot value =>
    cases h
    rw [World.put_refs]
    unfold Act.given Act.taken
    dsimp only
    omega
  | take ps =>
    cases h
    have hrefs : (s.take ps).refs c = s.refs c + ps.count c := rfl
    unfold Act.given Act.taken
    simp only [List.count_nil]
    omega
  | give ps =>
    cases h
    have hrefs : (s.drop ps).refs c = s.refs c - ps.count c := rfl
    unfold Act.given Act.taken
    simp only [List.count_nil]
    omega

/-- While it runs the callable is owned exactly as long as no act gives back the last reference. -/
theorem owned_iff_spares (acts : List Act) (howned : Owned c w) :
    Always step (Owned c) w acts ↔ Meets step (Spares c) w acts := by
  apply always_iff_meets (I := Owned c) _ _ acts howned howned
  · intro s act t hs hspares h
    exact (step_owned_iff hs h).mpr hspares
  · intro s act t hs h
    exact step_owned_iff hs h

/-! ## A callable that stays in its field -/

variable {slot : Slot}

/-- The flag is no field. -/
theorem set_flag_slot (p : Ptr) (pyref : Option Bool) (w : World) :
    ((set_flag p pyref w).sides self).slot slot = (w.sides self).slot slot := by
  have hset : ∀ b, ((w.set_pyref p b).sides self).slot slot = (w.sides self).slot slot := by
    intro b
    by_cases hp : self = p
    · subst hp
      simp [World.set_pyref]
    · simp [World.set_pyref, hp]
  unfold set_flag
  split
  · split
    · rfl
    · exact hset true
  · split
    · exact hset false
    · rfl
  · rfl

theorem put_slot_keeps {p : Ptr} {slot' : Slot} {value : Option Ptr}
    (hfield : (w.sides self).slot slot = some c)
    (hvalue : p = self → slot' = slot → value = some c) :
    ((w.put p slot' value).sides self).slot slot = some c := by
  by_cases hp : self = p
  · subst hp
    by_cases hslot : slot = slot'
    · subst hslot
      rw [World.put_slot]
      exact hvalue rfl rfl
    · simpa [World.put, World.set_slot, World.take, World.drop, hslot] using hfield
  · rw [World.put_sides_of_ne hp]
    exact hfield

theorem apply_slot_keeps {p : Ptr} {change : Change} (hfield : (w.sides self).slot slot = some c)
    (hvalue : ∀ value, p = self → change.field = some (slot, value) → value = some c) :
    ((change.apply p w).sides self).slot slot = some c := by
  unfold Change.apply
  rw [set_flag_slot]
  cases hchange : change.field with
  | none => exact hfield
  | some field =>
    obtain ⟨slot', value⟩ := field
    apply put_slot_keeps hfield
    rintro hp rfl
    exact hvalue value hp hchange

/-- The callable is in the field, and the references of the fields are counted. -/
structure InField (p : Ptr) (slot : Slot) (c : Ptr) (w : World) : Prop where
  field : (w.sides p).slot slot = some c
  covered : w.Covered c

/-- A callable in a field is held there. -/
theorem InField.owned (h : InField self slot c w) : Owned c w := by
  have hplace : w.place (self, some slot) = some c := h.field
  exact Covers.pos h.covered hplace

/-- A step that leaves the field alone. -/
theorem step_in_field (hslot : slot ≠ .on_close_cb) (hs : InField self slot c s)
    (hleaves : Leaves self slot c s act) (h : step s act = some t) : InField self slot c t := by
  cases act with
  | method E p m =>
    obtain ⟨hvacant, hleft⟩ := method_step h
    have hfollows := m.follows p s (ne_of_vacant hvacant hs.owned)
    cases hchange : m.change E s p with
    | none =>
      rw [hchange] at hfollows
      have hsaves := hfollows t hleft
      have hself : self ≠ E.fresh := by
        rintro rfl
        have hnone := hvacant.2 slot (by cases slot <;> decide)
        rw [hs.field] at hnone
        cases hnone
      exact ⟨(hsaves.kept self slot hself hslot).trans hs.field, hsaves.covered hs.covered⟩
    | some change =>
      rw [hchange] at hfollows
      obtain ⟨hsides, hrefs⟩ := hfollows t hleft
      constructor
      · rw [hsides]
        apply apply_slot_keeps hs.field
        intro value hp hvalue
        exact hleaves hp change value hchange hvalue
      · have happly : (change.apply p s).Covered c := apply_covered change hs.covered
        unfold World.Covered
        rw [place_congr hsides, hrefs]
        exact happly
  | set p slot' value =>
    cases h
    exact ⟨put_slot_keeps hs.field hleaves, put_covered _ _ hs.covered⟩
  | take ps =>
    cases h
    exact ⟨hs.field, take_covered ps hs.covered⟩
  | give ps =>
    cases h
    exact ⟨hs.field, hleaves⟩

/-- The close callback has a trampoline of its own. -/
theorem Trampoline.field_ne (T : Trampoline) : T.field ≠ .on_close_cb := by
  cases T <;> decide

/-- The callable of a trampoline is owned while it runs if and only if no act in the call gives
back the last reference to it. That is so where it does not leave the field of the handle. -/
theorem callable_is_owned_iff (T : Trampoline) (self c : Ptr) (w : World)
    (hfield : (w.sides self).slot T.field = some c) (hcovered : w.Covered c) (acts : List Act) :
    (Always step (Owned c) (entered self w) acts ↔ Meets step (Spares c) (entered self w) acts) ∧
      (Meets step (Leaves self T.field c) (entered self w) acts →
        Always step (Owned c) (entered self w) acts) := by
  have hentered : InField self T.field c (entered self w) := ⟨hfield, take_covered [self] hcovered⟩
  refine ⟨owned_iff_spares acts hentered.owned, ?_⟩
  intro hleaves
  have hall := always_of_meets (I := InField self T.field c)
    (fun s act t hs hact h => step_in_field T.field_ne hs hact h) hentered hleaves
  exact hall.mono fun _ h => h.owned

/-- A check that was started, with nothing else in the world. -/
def a_check : Obj where
  cls := .Check
  initialized := true
  type := .UV_CHECK
  closing := false
  typed := by decide
  concrete := by decide
  other := by decide

/-- A world without references. -/
def nothing : World := { World.of a_check with refs := fun _ => 0 }

/-- A Check that was started with the callable 4. -/
def checking : World := nothing.put 1 .callback (some 4)

theorem checking_field : (checking.sides 1).slot Trampoline.pyuv__check_cb.field = some 4 :=
  World.put_slot _ _ _ _

theorem checking_covered : checking.Covered 4 := by
  apply put_covered
  intro F hF
  have hempty : F = ∅ := by
    apply Finset.eq_empty_of_forall_notMem
    intro x hx
    obtain ⟨p, field⟩ := x
    have hplace := hF _ hx
    cases field <;> cases hplace
  rw [hempty]
  decide

/-- Its callback calls stop. -/
theorem callable_is_owned_iff_stop :
    (Always step (Owned 4) (entered 1 checking) [.method (willing fun _ => 0) 1 .Check_stop] ↔
      Meets step (Spares 4) (entered 1 checking) [.method (willing fun _ => 0) 1 .Check_stop]) ∧
    (Meets step (Leaves 1 .callback 4) (entered 1 checking)
        [.method (willing fun _ => 0) 1 .Check_stop] →
      Always step (Owned 4) (entered 1 checking) [.method (willing fun _ => 0) 1 .Check_stop]) :=
  callable_is_owned_iff .pyuv__check_cb 1 4 checking checking_field checking_covered _

/-- Then nobody but the caller of the callback may own it. -/
theorem a_callback_that_stops_its_check_is_not_owned :
    (checking.sides 1).slot Trampoline.pyuv__check_cb.field = some 4 ∧ checking.Covered 4 ∧
      Owned 4 (entered 1 checking) ∧
      ¬ Always step (Owned 4) (entered 1 checking)
        [.method (willing fun _ => 0) 1 .Check_stop] := by
  refine ⟨checking_field, checking_covered, by unfold Owned; decide, ?_⟩
  intro hall
  have hstep : ∃ t,
    step (entered 1 checking) (.method (willing fun _ => 0) 1 .Check_stop) = some t ∧
      t.refs 4 = 0 := ⟨_, rfl, by decide⟩
  obtain ⟨t, hstep, hrefs⟩ := hstep
  have howned : 0 < t.refs 4 := (hall.2 t hstep).head
  omega

end pyuv.callables
