-- Which methods and setters refuse an object that was not initialized or that is closing: all
-- that begin with the macros of src/pyuv.h do so for `self`. Those that take other objects do
-- not look at them, and two setters look at nothing.
import Pyuv.MethodFrames

set_option linter.style.nameCheck false

namespace pyuv.methods

open ends

variable {E : Env} {w : World} {self : Ptr} {m : Method} {α β : Type}

/-! ## The contract -/

/-- All of the objects were initialized. -/
def AllInit (ps : List Ptr) (w : World) : Prop := ∀ p ∈ ps, (w.objs p).initialized = true

/-- The objects a method is called on and with. -/
def Method.objects (self : Ptr) (m : Method) : List Ptr :=
  (if m.on_class then [] else [self]) ++ m.passed

/-- The handles that a method is called on and with. The setters are no methods. -/
def Method.handles (w : World) (self : Ptr) (m : Method) : List Ptr :=
  (if m.on_class || m.is_setter || m.of_thread then [] else [self]) ++
    m.passed.filter fun p => (w.objs p).cls.is_handle

/-- The world at the end, whichever it is. -/
def last {α : Type} : EStateM.Result Stop World α → World
  | .ok _ t => t
  | .error _ t => t

/-- It raises `e`, and calls nothing of libuv. -/
def Refuses (w : World) (x : C Unit) (e : PyErr) : Prop :=
  ∃ t, x w = .error (.raised e) t ∧ t.calls = w.calls

/-- What the macros are for: no structure is used before it is set up, and no handle once it
is closing. -/
structure Guarded (E : Env) (w : World) (obj : Ptr) (m : Method) : Prop where
  uninitialized : (∃ p ∈ m.objects obj, (w.objs p).initialized = false) →
    ∃ e, Refuses w (m.exec E obj) e
  closed : AllInit (m.objects obj) w → (∃ p ∈ m.handles w obj, (w.objs p).closing = true) →
    Refuses w (m.exec E obj) .handle_closed
  unused : (last (m.exec E obj w)).raw = w.raw

/-! ## What is guarded -/

/-- The guards let the object through. -/
def Usable (w : World) (p : Ptr) : Prop :=
  (w.objs p).initialized = true ∧ (w.objs p).closing = false

/-- Objects that nobody looks at: the method has another reason to refuse those that were not
initialized, and no handle of them is closing. -/
def Fit (w : World) (ps : List Ptr) (refused : Prop) : Prop :=
  ((∃ p ∈ ps, (w.objs p).initialized = false) → refused) ∧
    (AllInit ps w → ∀ p ∈ ps, (w.objs p).cls.is_handle = true → (w.objs p).closing = false)

/-- The data gets as far as libuv. -/
def Data.submits (E : Env) : Data → Prop
  | .exporter view => E.malloc .ctx = true ∧ E.no_buffer view = none
  | .sequence _ (.ok items) =>
    (0 < items.length ∧ items.length ≤ INT_MAX) ∧ E.malloc .ctx = true ∧
      (items.length > ARRAY_SIZE_viewsml → E.malloc .views = true) ∧
      ∀ item ∈ items, E.no_buffer item = none
  | .sequence _ (.error _) => False
  | .other => False

/-- Which calls are guarded: all, but for those of the two setters without a check, and for
those with an object that is not fit. -/
def Method.covered (E : Env) (w : World) (self : Ptr) : Method → Prop
  | .Handle_set_ref val => (w.objs self).initialized = true ∨ ∃ t, val = .error t
  | .Handle_set_dict val =>
    (w.objs self).initialized = true ∨ ∀ p, val = some p → E.is_dict p = false
  | .TCP_accept (.ok client) =>
    Usable w self → Fit w [client] ((w.objs client).cls.is_stream = false)
  | .Pipe_accept (.ok client) =>
    Usable w self →
      Fit w [client] ((w.objs client).cls.is_stream = false ∧ (w.objs client).cls ≠ .UDP)
  | .Pipe_write (.ok ((data, callback), some p)) =>
    Usable w self →
      Fit w [p] ((callback ≠ Py_None ∧ E.callable callback = false) ∨
        (w.objs p).cls.is_stream = false ∧ ((w.objs p).cls = .UDP → ¬data.submits E))
  | .Condition_wait (.ok mutex) =>
    (w.objs self).initialized = true → Fit w [mutex] ((w.objs mutex).cls ≠ .Mutex)
  | .Condition_timedwait (.ok (mutex, _)) =>
    (w.objs self).initialized = true → Fit w [mutex] ((w.objs mutex).cls ≠ .Mutex)
  | .Process_spawn (.ok a) => Fit w a.streams (¬a.reaches E)
  | _ => True

/-! ## The macros -/

/-- Structs that are initialised may be used. -/
theorem use_of_AllInit {ps : List Ptr} (h : AllInit ps w) : w.use ps = w := by
  have hnil : ps.filter (fun p => !(w.objs p).initialized) = [] := by
    rw [List.filter_eq_nil_iff]
    intro p hp
    simp [h p hp]
  simp [World.use, hnil]

theorem not_initialized_eq (h : (w.objs self).initialized = false) :
    RAISE_IF_NOT_INITIALIZED self w = .error (.raised .not_initialized) w := by
  change check (if (w.objs self).initialized then .ok () else .error .not_initialized) w = _
  rw [h]
  rfl

theorem initialized_eq (h : (w.objs self).initialized = true) :
    RAISE_IF_NOT_INITIALIZED self w = .ok () w := by
  change check (if (w.objs self).initialized then .ok () else .error .not_initialized) w = _
  rw [h]
  rfl

theorem deref_eq (h : (w.objs self).initialized = true) :
    deref self w = .ok (w.objs self) w := by
  have huse : w.use [self] = w := use_of_AllInit (by simpa [AllInit] using h)
  unfold deref
  rw [(w.objs self).concrete h, huse]
  rfl

theorem guards_uninitialized (h : (w.objs self).initialized = false) :
    handle_guards self w = .error (.raised .not_initialized) w :=
  bind_of_error (not_initialized_eq h)

theorem guards_closed (h : (w.objs self).initialized = true)
    (hclosing : (w.objs self).closing = true) :
    handle_guards self w = .error (.raised .handle_closed) w := by
  unfold handle_guards
  rw [bind_of_ok (initialized_eq h)]
  unfold RAISE_IF_HANDLE_CLOSED
  rw [bind_of_ok (deref_eq h), hclosing]
  rfl

theorem guards_usable (h : Usable w self) : handle_guards self w = .ok () w := by
  unfold handle_guards
  rw [bind_of_ok (initialized_eq h.1)]
  unfold RAISE_IF_HANDLE_CLOSED
  rw [bind_of_ok (deref_eq h.1), h.2]
  rfl

/-- The structures of the objects `ps` are the only ones that are used. -/
theorem frame_neat (ps : List Ptr) :
    Frame (fun p => p ∈ ps) (AllInit ps) (fun s t => t.raw = s.raw) where
  refl s := rfl
  trans h₁ h₂ := h₂.trans h₁
  own hobjs hraw _ hs := ⟨fun p hp => by rw [hobjs]; exact hs p hp, hraw⟩
  use h hs := by
    rw [use_of_AllInit fun p hp => hs p (h p hp)]
    exact ⟨hs, rfl⟩
  log hs := ⟨hs, rfl⟩
  closing _ hs := by
    refine ⟨fun p hp => ?_, rfl⟩
    have hp' := hs p hp
    unfold set_closing
    dsimp only
    rw [Function.update_apply]
    split
    · rename_i heq
      rw [← heq]
      exact hp'
    · exact hp'

/-- What is used too early stays on record. -/
theorem frame_grows : Frame (fun _ => True) (fun _ => True)
    (fun s t => s.raw.length ≤ t.raw.length ∧ s.calls.length ≤ t.calls.length) where
  refl s := ⟨le_refl _, le_refl _⟩
  trans h₁ h₂ := ⟨h₁.1.trans h₂.1, h₁.2.trans h₂.2⟩
  own _ hraw hcalls _ := ⟨trivial, by rw [hraw, hcalls]; exact ⟨le_refl _, le_refl _⟩⟩
  use _ _ := ⟨trivial, by simp [World.use]⟩
  log _ := ⟨trivial, by simp [World.log]⟩
  closing _ _ := ⟨trivial, le_refl _, le_refl _⟩

/-! ## The methods that look at `self` -/

/-- No use of a raw struct shows in the log. -/
theorem raw_of_keeps {x : C Unit} {ps : List Ptr}
    (h : Keeps (AllInit ps) (fun s t => t.raw = s.raw) x) (hw : AllInit ps w) :
    (last (x w)).raw = w.raw := by
  cases hx : x w with
  | ok a t => exact (h.ok hw hx).2
  | error e t => exact (h.error hw hx).2

/-- Where every object is in order, there is nothing to refuse. -/
theorem guarded_of_fit (hclass : m.on_class = false) (hinit : AllInit (m.objects self) w)
    (hopen : ∀ p ∈ m.handles w self, (w.objs p).closing = false) : Guarded E w self m where
  uninitialized := by
    rintro ⟨p, hp, hp'⟩
    rw [hinit p hp] at hp'
    cases hp'
  closed := by
    rintro _ ⟨p, hp, hp'⟩
    rw [hopen p hp] at hp'
    cases hp'
  unused := by
    apply raw_of_keeps _ hinit
    apply (frame_neat (m.objects self)).of_exec
    · simp [Method.objects, hclass]
    · intro p hp
      simp [Method.objects, hp]
    · rintro args rfl
      simp [Method.on_class] at hclass

/-- A method that begins with the guards, on an object that they refuse. -/
theorem guarded_of_unusable {f : Unit → C Unit}
    (hexec : m.exec E self = handle_guards self >>= f) (hclass : m.on_class = false)
    (hself : ¬Usable w self) : Guarded E w self m := by
  have hmem : self ∈ m.objects self := by simp [Method.objects, hclass]
  by_cases hinit : (w.objs self).initialized = true
  · have hclosing : (w.objs self).closing = true := by
      simpa [Usable, hinit] using hself
    have hrun : m.exec E self w = .error (.raised .handle_closed) w := by
      rw [hexec]
      exact bind_of_error (guards_closed hinit hclosing)
    refine ⟨fun _ => ⟨_, w, hrun, rfl⟩, fun _ _ => ⟨w, hrun, rfl⟩, ?_⟩
    rw [hrun]
    rfl
  · have hraw : (w.objs self).initialized = false := by simpa using hinit
    have hrun : m.exec E self w = .error (.raised .not_initialized) w := by
      rw [hexec]
      exact bind_of_error (guards_uninitialized hraw)
    refine ⟨fun _ => ⟨_, w, hrun, rfl⟩, fun hall => absurd (hall self hmem) hinit, ?_⟩
    rw [hrun]
    rfl

/-- The setters and the thread primitives look only whether the object is initialized. -/
theorem guarded_of_uninitialized {f : Unit → C Unit}
    (hexec : m.exec E self = RAISE_IF_NOT_INITIALIZED self >>= f) (hclass : m.on_class = false)
    (hself : (w.objs self).initialized = false) : Guarded E w self m := by
  have hmem : self ∈ m.objects self := by simp [Method.objects, hclass]
  have hrun : m.exec E self w = .error (.raised .not_initialized) w := by
    rw [hexec]
    exact bind_of_error (not_initialized_eq hself)
  refine ⟨fun _ => ⟨_, w, hrun, rfl⟩, fun hall => ?_, ?_⟩
  · have hinit := hall self hmem
    rw [hself] at hinit
    cases hinit
  · rw [hrun]
    rfl

/-- The methods of a handle that takes no other object. -/
theorem guarded_of_guards {f : Unit → C Unit} (hexec : m.exec E self = handle_guards self >>= f)
    (hclass : m.on_class = false) (hpassed : m.passed = []) : Guarded E w self m := by
  by_cases hself : Usable w self
  · apply guarded_of_fit hclass
    · simpa [AllInit, Method.objects, hclass, hpassed] using hself.1
    · intro p hp
      have hp' : p = self := by
        simp only [Method.handles, hpassed, List.filter_nil, List.append_nil] at hp
        split at hp
        · cases hp
        · exact List.mem_singleton.mp hp
      rw [hp']
      exact hself.2
  · exact guarded_of_unusable hexec hclass hself

/-- A setter, or a method of the thread types, has the first guard alone. -/
theorem guarded_of_init_guard {f : Unit → C Unit}
    (hexec : m.exec E self = RAISE_IF_NOT_INITIALIZED self >>= f) (hclass : m.on_class = false)
    (hkind : (m.is_setter || m.of_thread) = true) (hpassed : m.passed = []) :
    Guarded E w self m := by
  by_cases hself : (w.objs self).initialized = true
  · apply guarded_of_fit hclass
    · simpa [AllInit, Method.objects, hclass, hpassed] using hself
    · simp [Method.handles, hclass, hkind, hpassed]
  · exact guarded_of_uninitialized hexec hclass (by simpa using hself)

/-- A function on the class has no object to guard. -/
theorem guarded_of_class {fn : UvFn} (hexec : m.exec E self = call E fn [])
    (hclass : m.on_class = true) (hpassed : m.passed = []) : Guarded E w self m := by
  have hobjects : m.objects self = [] := by simp [Method.objects, hclass, hpassed]
  refine ⟨?_, ?_, ?_⟩
  · simp [hobjects]
  · simp [Method.handles, hclass, hpassed]
  · rw [hexec]
    apply raw_of_keeps ((frame_neat []).of_call (by simp))
    simp [AllInit]

theorem guarded_Process_close {args : Args Ptr} : Guarded E w self (.Process_close args) := by
  by_cases hinit : (w.objs self).initialized = true
  · have hrun : (Method.Process_close args).exec E self w = Handle_func_close E self args w := by
      change (check (if (w.objs self).initialized then .ok () else _) >>= _) w = _
      rw [hinit]
      rfl
    have hclose : Guarded E w self (.Handle_close args) := guarded_of_guards rfl rfl rfl
    refine ⟨fun h => ?_, fun hall hclosed => ?_, ?_⟩
    · obtain ⟨e, t, ht, hcalls⟩ := hclose.uninitialized h
      exact ⟨e, t, hrun.trans ht, hcalls⟩
    · obtain ⟨t, ht, hcalls⟩ := hclose.closed hall hclosed
      exact ⟨t, hrun.trans ht, hcalls⟩
    · rw [hrun]
      exact hclose.unused
  · have hraw : (w.objs self).initialized = false := by simpa using hinit
    have hrun : (Method.Process_close args).exec E self w = .error (.raised
        (.text .RuntimeError "Object was not initialized, spawn was not called.")) w := by
      change (check (if (w.objs self).initialized then .ok () else _) >>= _) w = _
      rw [hraw]
      rfl
    refine ⟨fun _ => ⟨_, w, hrun, rfl⟩, fun hall =>
      absurd (hall self (by simp [Method.objects, Method.on_class])) hinit, ?_⟩
    rw [hrun]
    rfl

/-! ## The setters that look at nothing -/

/-- A program crashes, or uses a structure before it is set up. -/
def TooEarly {α : Type} (w : World) (x : C α) : Prop :=
  (∃ t, x w = .error .crash t) ∨ w.raw.length < (last (x w)).raw.length

/-- What is used too early stays on record. -/
def Grows {α : Type} (x : C α) : Prop :=
  Keeps (fun _ => True)
    (fun s t => s.raw.length ≤ t.raw.length ∧ s.calls.length ≤ t.calls.length) x

/-- Once a raw struct was used, that stays on record. -/
theorem TooEarly.bind {x : C α} {f : α → C β} (hx : TooEarly w x) (hf : ∀ a, Grows (f a)) :
    TooEarly w (x >>= f) := by
  rcases hx with ⟨t, ht⟩ | hlt
  · exact .inl ⟨t, bind_of_error ht⟩
  · right
    cases hrun : x w with
    | error e t =>
      rw [bind_of_error hrun]
      rw [hrun] at hlt
      exact hlt
    | ok a t =>
      rw [bind_of_ok hrun]
      rw [hrun] at hlt
      cases hend : f a t with
      | ok b u => exact lt_of_lt_of_le hlt ((hf a).ok trivial hend).2.1
      | error e u => exact lt_of_lt_of_le hlt ((hf a).error trivial hend).2.1

/-- A use that comes later. -/
theorem TooEarly.after {x : C α} {f : α → C β} {a : α} {t : World} (hx : x w = .ok a t)
    (ht : t.raw = w.raw) (hf : TooEarly t (f a)) : TooEarly w (x >>= f) := by
  unfold TooEarly at hf ⊢
  rw [bind_of_ok hx, ← ht]
  exact hf

/-- Such a method is not guarded. -/
theorem not_guarded_of_too_early {x : C Unit} {p : Ptr} (hexec : m.exec E self w = x w)
    (hobj : p ∈ m.objects self) (hraw : (w.objs p).initialized = false) (hx : TooEarly w x) :
    ¬Guarded E w self m := by
  intro hg
  rcases hx with ⟨t, ht⟩ | hlt
  · obtain ⟨e, u, hu, -⟩ := hg.uninitialized ⟨p, hobj, hraw⟩
    rw [hexec, ht] at hu
    cases hu
  · rw [← hexec, hg.unused] at hlt
    exact lt_irrefl _ hlt

/-- The log of raw uses grows. -/
theorem raw_use_lt {hs : List Ptr} {p : Ptr} (hp : p ∈ hs)
    (hraw : (w.objs p).initialized = false) : w.raw.length < (w.use hs).raw.length := by
  have hmem : p ∈ hs.filter fun p => !(w.objs p).initialized := by
    simp [hp, hraw]
  have hpos := List.length_pos_of_mem hmem
  simp only [World.use, List.length_append]
  omega

theorem too_early_uv {fn : UvFn} {hs : List Ptr} {p : Ptr} (hp : p ∈ hs)
    (hraw : (w.objs p).initialized = false) : TooEarly w (uv E fn hs) := by
  unfold TooEarly uv
  split
  · exact .inl ⟨_, rfl⟩
  · exact .inr (raw_use_lt hp hraw)

theorem too_early_deref {p : Ptr} (hraw : (w.objs p).initialized = false) :
    TooEarly w (deref p) := by
  unfold TooEarly deref
  split
  · exact .inl ⟨_, rfl⟩
  · exact .inr (raw_use_lt (List.mem_singleton_self p) hraw)

/-- Handle.ref has no guard: only a bad value saves a handle that is not initialised. -/
theorem guarded_Handle_set_ref_iff {val : Args Int} :
    Guarded E w self (.Handle_set_ref val) ↔
      (w.objs self).initialized = true ∨ ∃ t, val = .error t := by
  by_cases hinit : (w.objs self).initialized = true
  · refine iff_of_true (guarded_of_fit rfl ?_ ?_) (.inl hinit)
    · simpa [AllInit, Method.objects, Method.on_class, Method.passed] using hinit
    · simp [Method.handles, Method.is_setter, Method.passed]
  · have hraw : (w.objs self).initialized = false := by simpa using hinit
    have hmem : self ∈ (Method.Handle_set_ref val).objects self := by
      simp [Method.objects, Method.on_class]
    cases val with
    | error t =>
      refine iff_of_true ⟨fun _ => ⟨_, w, rfl, rfl⟩, fun hall => ?_, rfl⟩ (.inr ⟨t, rfl⟩)
      exact absurd (hall self hmem) hinit
    | ok ref =>
      refine iff_of_false ?_ ?_
      · have huv : ∀ fn : UvFn, (Method.Handle_set_ref (.ok ref)).exec E self w =
            (uv E fn [self] >>= fun _ => pure ()) w →
            ¬Guarded E w self (.Handle_set_ref (.ok ref)) := by
          intro fn hexec
          apply not_guarded_of_too_early hexec hmem hraw
          apply (too_early_uv (List.mem_singleton_self self) hraw).bind
          exact fun _ => frame_grows.of_pure
        by_cases href : ref = 0
        · exact huv .uv_unref (by simp [Method.exec, Handle_ref_set, href, call])
        · exact huv .uv_ref (by simp [Method.exec, Handle_ref_set, href, call])
      · simp [hraw]

theorem guarded_Handle_set_dict_iff {val : Option Ptr} :
    Guarded E w self (.Handle_set_dict val) ↔
      (w.objs self).initialized = true ∨ ∀ p, val = some p → E.is_dict p = false := by
  by_cases hinit : (w.objs self).initialized = true
  · refine iff_of_true (guarded_of_fit rfl ?_ ?_) (.inl hinit)
    · simpa [AllInit, Method.objects, Method.on_class, Method.passed] using hinit
    · simp [Method.handles, Method.is_setter, Method.passed]
  · have hraw : (w.objs self).initialized = false := by simpa using hinit
    have hmem : self ∈ (Method.Handle_set_dict val).objects self := by
      simp [Method.objects, Method.on_class]
    have hrefused : ∀ {e : PyErr}, (Method.Handle_set_dict val).exec E self w =
      .error (.raised e) w →
        Guarded E w self (.Handle_set_dict val) := by
      intro e hrun
      refine ⟨fun _ => ⟨e, w, hrun, rfl⟩, fun hall => absurd (hall self hmem) hinit, ?_⟩
      rw [hrun]
      rfl
    cases val with
    | none => exact iff_of_true (hrefused rfl) (.inr (by simp))
    | some p =>
      by_cases hdict : E.is_dict p = true
      · refine iff_of_false (fun hg => ?_) (by simp [hraw, hdict])
        obtain ⟨e, t, ht, -⟩ := hg.uninitialized ⟨self, hmem, hraw⟩
        simp [Method.exec, Handle_dict_set, hdict] at ht
        cases ht
      · refine iff_of_true (hrefused (e := .text .TypeError "__dict__ must be a dictionary") ?_)
          (.inr (by simpa using hdict))
        simp [Method.exec, Handle_dict_set, hdict]
        rfl

/-! ## Programs that never say that a handle is closed -/

/-- The code does not raise HandleClosedError. -/
def Avoids {α : Type} (x : C α) : Prop :=
  Ends (fun _ => True) (fun _ _ _ => True) (fun _ e _ => e ≠ .raised .handle_closed) x

/-- A method that never says that a handle is closed does not guard one that is passed. -/
theorem not_guarded_of_avoids {x : C Unit} (hexec : m.exec E self w = x w) (hx : Avoids x)
    (hinit : AllInit (m.objects self) w) {p : Ptr} (hp : p ∈ m.handles w self)
    (hclosing : (w.objs p).closing = true) : ¬Guarded E w self m := by
  intro hg
  obtain ⟨t, ht, -⟩ := hg.closed hinit ⟨p, hp, hclosing⟩
  exact hx.error trivial (hexec.symm.trans ht) rfl

/-- Neither part says that a handle is closed. -/
theorem avoids_bind {x : C α} {f : α → C β} (hx : Avoids x) (hf : ∀ a, Avoids (f a)) :
    Avoids (x >>= f) :=
  Ends.bind hx hf (fun _ _ _ _ _ => trivial) (fun _ _ _ _ _ _ _ _ => trivial)
    (fun _ _ _ _ h => h) (fun _ _ _ _ _ _ _ h => h)

theorem avoids_pure {a : α} : Avoids (pure a : C α) := Ends.pure fun _ _ => trivial

theorem avoids_crash : Avoids (throw .crash : C α) := Ends.throw fun _ _ => by simp

theorem avoids_raise {e : PyErr} (h : e ≠ .handle_closed) : Avoids (raise e : C α) :=
  Ends.throw fun _ _ => by simpa using h

theorem avoids_modify {f : World → World} : Avoids (modify f : C PUnit) :=
  Ends.modify fun _ _ => trivial

theorem avoids_get : Avoids (get : C World) := fun _ _ => trivial

theorem avoids_ite {c : Prop} [Decidable c] {x y : C α} (hx : Avoids x) (hy : Avoids y) :
    Avoids (if c then x else y) :=
  Ends.ite (fun _ => hx) (fun _ => hy)

/-- Checks of arguments raise other errors. -/
theorem avoids_check {v : Except PyErr α} (h : Plain v) : Avoids (check v) := by
  cases v with
  | ok a => exact avoids_pure
  | error e => exact avoids_raise (h e rfl).1

theorem avoids_deref {p : Ptr} : Avoids (deref p) := by
  intro s _
  unfold deref
  split <;> rename_i heq <;> split at heq <;> cases heq
  · trivial
  · simp

theorem avoids_uv {fn : UvFn} {hs : List Ptr} : Avoids (uv E fn hs) := by
  intro s _
  unfold uv
  split <;> rename_i heq <;> split at heq <;> cases heq
  · trivial
  · simp

theorem avoids_call {fn : UvFn} {hs : List Ptr} : Avoids (call E fn hs) :=
  avoids_bind avoids_uv fun _ => avoids_pure

/-- The exception that libuv's code makes is another one. -/
theorem avoids_uv_error {err : Int} {exc : Exc} {f : PyErr → C α}
    (hf : ∀ t, Avoids (f (.uv t err))) : Avoids (uv_error self err exc >>= f) := by
  intro s _
  rcases uv_error_cases self err exc s with ⟨u, hrun⟩ | ⟨t, u, hrun⟩
  · rw [bind_of_error hrun]
    simp
  · rw [bind_of_ok hrun]
    exact hf t u trivial

theorem avoids_raise_if_negative {exc : Exc} {err : Int} :
    Avoids (raise_if_negative self exc err) := by
  apply avoids_ite
  · apply avoids_uv_error
    intro t
    exact avoids_raise (by simp [PyErr.handle_closed])
  · exact avoids_pure

theorem avoids_submit_data {fn : UvFn} {hs : List Ptr} {exc : Exc} {callback : Ptr}
    {views : List Ptr} : Avoids (submit_data E self fn hs exc callback views) := by
  apply avoids_bind avoids_modify
  intro _
  have hsubmit : ∀ {taken : List Ptr}, Avoids (submit E self fn (self :: hs) exc taken) := by
    intro taken
    apply avoids_bind avoids_uv
    intro err
    apply avoids_ite
    · apply avoids_uv_error
      intro t
      apply avoids_bind avoids_modify
      intro _
      exact avoids_raise (by simp [PyErr.handle_closed])
    · exact avoids_modify
  split
  · exact avoids_bind avoids_pure fun _ => avoids_ite hsubmit avoids_crash
  · apply avoids_bind
    · exact avoids_bind avoids_deref fun _ => avoids_pure
    · exact fun _ => avoids_ite hsubmit avoids_crash

theorem avoids_fill_views {fast done items : List Ptr} : Avoids (fill_views E fast done items) := by
  induction items generalizing done with
  | nil => exact avoids_pure
  | cons item items ih =>
    unfold fill_views
    split
    · exact avoids_bind avoids_modify fun _ => avoids_raise (by simp [PyErr.handle_closed])
    · exact avoids_bind avoids_modify fun _ => ih

theorem avoids_submit_any {fn : UvFn} {hs : List Ptr} {exc : Exc} {callback : Ptr}
    {data : Data} : Avoids (submit_any E self fn hs exc callback data) := by
  cases data with
  | other => exact avoids_raise (by simp [PyErr.handle_closed])
  | exporter view =>
    apply avoids_bind (avoids_check plain_check_malloc)
    intro _
    apply avoids_bind
    · apply avoids_check
      split
      · exact plain_error plain_cpython
      · exact plain_ok
    · exact fun _ => avoids_bind avoids_modify fun _ => avoids_submit_data
  | sequence fast items =>
    apply avoids_bind (avoids_check plain_parse)
    intro items
    apply avoids_bind avoids_modify
    intro _
    split
    · rename_i e heq
      apply avoids_bind avoids_modify
      intro _
      exact avoids_raise (plain_bad_sequence heq).1
    · exact avoids_bind avoids_fill_views fun _ => avoids_submit_data

theorem avoids_carried {p : Ptr} {wrong_type wrong_class : String} :
    Avoids (carried p wrong_type wrong_class) := by
  apply avoids_bind avoids_get
  intro w
  apply avoids_ite
  · apply avoids_bind avoids_deref
    intro o
    exact avoids_check (plain_ite plain_ok (plain_error (plain_text (by decide))))
  · exact avoids_check (plain_ite plain_ok (plain_error (plain_text (by decide))))

/-! ## The methods that take another object -/

/-- While `self` is usable, only the object that is passed is in question. -/
theorem guarded_of_fit_passed {p : Ptr} (hclass : m.on_class = false) (hpassed : m.passed = [p])
    (hself : (w.objs self).initialized = true)
    (hopen : m.of_thread = true ∨ (w.objs self).closing = false)
    (hp : (w.objs p).initialized = true)
    (hp' : (w.objs p).cls.is_handle = true → (w.objs p).closing = false) :
    Guarded E w self m := by
  apply guarded_of_fit hclass
  · simp [AllInit, Method.objects, hclass, hpassed, hself, hp]
  · intro q hq
    simp only [Method.handles, List.mem_append] at hq
    rcases hq with hq | hq
    · split at hq
      · cases hq
      · rename_i hkind
        have hthread : m.of_thread ≠ true := by
          intro h
          simp [h] at hkind
        rw [List.mem_singleton.mp hq]
        exact hopen.resolve_left hthread
    · rw [hpassed, List.mem_filter] at hq
      have hqp : q = p := List.mem_singleton.mp hq.1
      rw [hqp] at hq ⊢
      exact hp' hq.2

/-- A refusal that has nothing to do with the state of the objects is good for one that was not
initialized. -/
theorem guarded_of_refused {p : Ptr} {e : PyErr} (hobj : p ∈ m.objects self)
    (hraw : (w.objs p).initialized = false) {t : World}
    (hrun : m.exec E self w = .error (.raised e) t) (hcalls : t.calls = w.calls)
    (ht : t.raw = w.raw) : Guarded E w self m := by
  refine ⟨fun _ => ⟨e, t, hrun, hcalls⟩, fun hall => ?_, ?_⟩
  · have hinit := hall p hobj
    rw [hraw] at hinit
    cases hinit
  · rw [hrun]
    exact ht

/-- A method with one more object is guarded if and only if the object is fit, once its body
refuses or uses one that was not initialized and never says that a handle is closed. -/
theorem guarded_passed_iff {p : Ptr} {refused : Prop} {x : C Unit} (hclass : m.on_class = false)
    (hpassed : m.passed = [p]) (hself : (w.objs self).initialized = true)
    (hopen : m.of_thread = true ∨ (w.objs self).closing = false)
    (hexec : m.exec E self w = x w) (hx : Avoids x)
    (hrefused : (w.objs p).initialized = false → refused →
      ∃ e t, x w = .error (.raised e) t ∧ t.calls = w.calls ∧ t.raw = w.raw)
    (hused : (w.objs p).initialized = false → ¬refused → ¬Guarded E w self m) :
    Guarded E w self m ↔ Fit w [p] refused := by
  have hobj : p ∈ m.objects self := by simp [Method.objects, hpassed]
  by_cases hinit : (w.objs p).initialized = true
  · by_cases hclosing : (w.objs p).cls.is_handle = true ∧ (w.objs p).closing = true
    · apply iff_of_false
      · apply not_guarded_of_avoids hexec hx _ _ hclosing.2
        · simp [AllInit, Method.objects, hclass, hpassed, hself, hinit]
        · simp [Method.handles, hpassed, hclosing.1]
      · intro hfit
        have h := hfit.2 (by simp [AllInit, hinit]) p (List.mem_singleton_self p) hclosing.1
        rw [hclosing.2] at h
        cases h
    · have hp' : (w.objs p).cls.is_handle = true → (w.objs p).closing = false := by
        intro h
        simpa [h] using hclosing
      apply iff_of_true (guarded_of_fit_passed hclass hpassed hself hopen hinit hp')
      exact ⟨by simp [hinit], by simpa using fun _ => hp'⟩
  · have hraw : (w.objs p).initialized = false := by simpa using hinit
    by_cases h : refused
    · obtain ⟨e, t, ht, hcalls, hraw'⟩ := hrefused hraw h
      apply iff_of_true (guarded_of_refused hobj hraw (hexec.trans ht) hcalls hraw')
      exact ⟨fun _ => h, by simp [AllInit, hraw]⟩
    · apply iff_of_false (hused hraw h)
      intro hfit
      exact h (hfit.1 ⟨p, List.mem_singleton_self p, hraw⟩)

/-- The client must be fit, unless the server is refused first. -/
theorem guarded_TCP_accept_iff {client : Ptr} :
    Guarded E w self (.TCP_accept (.ok client)) ↔
      (Usable w self → Fit w [client] ((w.objs client).cls.is_stream = false)) := by
  by_cases hself : Usable w self
  · rw [imp_iff_right hself]
    let body : C Unit := do
      let w ← get
      check <| if (w.objs client).cls.is_stream then .ok ()
        else .error (.text .TypeError "Only stream objects are supported for accept")
      let err ← uv E .uv_accept [self, client]
      raise_if_negative self (.type .TCPError) err
    have hexec : (Method.TCP_accept (.ok client)).exec E self w = body w :=
      bind_of_ok (guards_usable hself)
    apply guarded_passed_iff rfl rfl hself.1 (.inr hself.2) hexec
    · apply avoids_bind avoids_get
      intro v
      apply avoids_bind
      · apply avoids_check
        exact plain_ite plain_ok (plain_error (plain_text (by decide)))
      intro _
      exact avoids_bind avoids_uv fun _ => avoids_raise_if_negative
    · intro _ hstream
      refine ⟨.text .TypeError "Only stream objects are supported for accept", w, ?_, rfl, rfl⟩
      change (check (if (w.objs client).cls.is_stream then .ok () else _) >>= _) w = _
      rw [hstream]
      rfl
    · intro hraw hstream
      have hstream' : (w.objs client).cls.is_stream = true := by simpa using hstream
      have hrun : (Method.TCP_accept (.ok client)).exec E self w =
          (uv E .uv_accept [self, client] >>= raise_if_negative self (.type .TCPError)) w := by
        refine hexec.trans ?_
        change (check (if (w.objs client).cls.is_stream then .ok () else _) >>= _) w = _
        rw [hstream']
        rfl
      apply not_guarded_of_too_early hrun (by simp [Method.objects, Method.passed]) hraw
      apply (too_early_uv (by simp) hraw).bind
      exact fun _ => frame_grows.of_raise_if_negative trivial
  · exact iff_of_true (guarded_of_unusable rfl rfl hself) fun h => absurd h hself

/-- What `carried` finds in an object that was not initialized: a structure that it looks at, a
UDP handle, or a class that it refuses. -/
theorem carried_uninitialized {p : Ptr} (wrong_type wrong_class : String)
    (hraw : (w.objs p).initialized = false) :
    if (w.objs p).cls.is_stream then TooEarly w (carried p wrong_type wrong_class)
    else if (w.objs p).cls = .UDP then carried p wrong_type wrong_class w = .ok () w
    else carried p wrong_type wrong_class w =
      .error (.raised (.text .TypeError wrong_class)) w := by
  have hrun : carried p wrong_type wrong_class w =
      (if (w.objs p).cls.is_stream = true then
        deref p >>= fun o => check <| if o.type = .UV_TCP ∨ o.type = .UV_NAMED_PIPE then .ok ()
          else .error (.text .TypeError wrong_type)
      else check <| if (w.objs p).cls = .UDP then .ok ()
        else .error (.text .TypeError wrong_class) : C Unit) w := rfl
  by_cases hstream : (w.objs p).cls.is_stream = true
  · rw [if_pos hstream] at hrun ⊢
    have hearly := (too_early_deref hraw).bind (f := fun o => check <|
      if o.type = .UV_TCP ∨ o.type = .UV_NAMED_PIPE then .ok ()
      else .error (.text .TypeError wrong_type)) fun _ => frame_grows.of_check
    unfold TooEarly at hearly ⊢
    rw [hrun]
    exact hearly
  · rw [if_neg hstream] at hrun ⊢
    rw [hrun]
    by_cases hudp : (w.objs p).cls = .UDP
    · rw [if_pos hudp, if_pos hudp]
      rfl
    · rw [if_neg hudp, if_neg hudp]
      rfl

/-- A Pipe takes UDP clients as well. -/
theorem guarded_Pipe_accept_iff {client : Ptr} :
    Guarded E w self (.Pipe_accept (.ok client)) ↔
      (Usable w self →
        Fit w [client] ((w.objs client).cls.is_stream = false ∧ (w.objs client).cls ≠ .UDP)) := by
  by_cases hself : Usable w self
  · rw [imp_iff_right hself]
    let accept : C Unit :=
      uv E .uv_accept [self, client] >>= raise_if_negative self (.type .PipeError)
    let body : C Unit :=
      carried client "Only TCP and Pipe objects are supported for accept"
        "Only Stream and UDP objects are supported for accept" >>= fun _ => accept
    have hexec : (Method.Pipe_accept (.ok client)).exec E self w = body w :=
      bind_of_ok (guards_usable hself)
    have haccept : Grows accept := frame_grows.of_bind (frame_grows.of_uv (by simp))
      fun _ => frame_grows.of_raise_if_negative trivial
    apply guarded_passed_iff rfl rfl hself.1 (.inr hself.2) hexec
    · apply avoids_bind avoids_carried
      intro _
      exact avoids_bind avoids_uv fun _ => avoids_raise_if_negative
    · rintro hraw ⟨hstream, hudp⟩
      have hcarried := carried_uninitialized
        "Only TCP and Pipe objects are supported for accept"
        "Only Stream and UDP objects are supported for accept" hraw
      rw [if_neg (by simp [hstream]), if_neg hudp] at hcarried
      exact ⟨_, w, bind_of_error hcarried, rfl, rfl⟩
    · intro hraw h
      apply not_guarded_of_too_early hexec (by simp [Method.objects, Method.passed]) hraw
      have hcarried := carried_uninitialized
        "Only TCP and Pipe objects are supported for accept"
        "Only Stream and UDP objects are supported for accept" hraw
      by_cases hstream : (w.objs client).cls.is_stream = true
      · rw [if_pos hstream] at hcarried
        exact hcarried.bind fun _ => haccept
      · have hudp : (w.objs client).cls = .UDP := by
          by_contra hne
          exact h ⟨by simpa using hstream, hne⟩
        rw [if_neg hstream, if_pos hudp] at hcarried
        apply TooEarly.after hcarried rfl
        exact (too_early_uv (by simp) hraw).bind
          fun _ => frame_grows.of_raise_if_negative trivial
  · exact iff_of_true (guarded_of_unusable rfl rfl hself) fun h => absurd h hself

/-! ### Pipe.write -/

/-- A bad item ends the loop, and nothing was called. -/
theorem fill_views_refused {fast done items : List Ptr}
    (h : ∃ item ∈ items, E.no_buffer item ≠ none)
    (w : World) : ∃ e t, fill_views E fast done items w = .error (.raised e) t ∧
      t.calls = w.calls ∧ t.raw = w.raw := by
  induction items generalizing done w with
  | nil => simp at h
  | cons item items ih =>
    cases hitem : E.no_buffer item with
    | some t =>
      refine ⟨.cpython t, w.drop (done ++ fast), ?_, rfl, rfl⟩
      unfold fill_views
      rw [hitem]
      rfl
    | none =>
      have hrest : ∃ item ∈ items, E.no_buffer item ≠ none := by
        simpa [hitem] using h
      obtain ⟨e, t, ht, hcalls, hraw⟩ := @ih (item :: done) hrest (w.take [item])
      refine ⟨e, t, ?_, hcalls, hraw⟩
      unfold fill_views
      rw [hitem]
      exact ht

/-- With no bad item all views are taken. -/
theorem fill_views_ok {fast done items : List Ptr} (h : ∀ item ∈ items, E.no_buffer item = none)
    (w : World) : fill_views E fast done items w = .ok () (w.take items) := by
  induction items generalizing done w with
  | nil =>
    unfold fill_views
    simp [World.take, pure, EStateM.pure]
  | cons item items ih =>
    have hitem := h item List.mem_cons_self
    have hrest := @ih (item :: done) (fun i hi => h i (List.mem_cons_of_mem _ hi))
      (w.take [item])
    unfold fill_views
    rw [hitem]
    refine hrest.trans ?_
    rw [World.take_take]
    rfl

/-- When a sequence goes through: its length and the two allocations. -/
theorem bad_sequence_none_iff {items : List Ptr} : bad_sequence E items = none ↔
    (0 < items.length ∧ items.length ≤ INT_MAX) ∧ E.malloc .ctx = true ∧
      (items.length > ARRAY_SIZE_viewsml → E.malloc .views = true) := by
  unfold bad_sequence
  by_cases hmax : items.length > INT_MAX
  · simp [hmax, Nat.not_le.mpr hmax]
  · by_cases hzero : items.length = 0
    · simp [hzero]
    · have hpos : 0 < items.length := Nat.pos_of_ne_zero hzero
      have hle : items.length ≤ INT_MAX := Nat.not_lt.mp hmax
      rw [if_neg hmax, if_neg hzero]
      by_cases hctx : E.malloc .ctx = true
      · by_cases hviews : E.malloc .views = true
        · simp [hctx, hviews, hpos, hle]
        · simp [hctx, hviews, hpos, hle]
      · simp [hctx]

/-- Data that is refused reaches no call. -/
theorem submit_any_refused {fn : UvFn} {hs : List Ptr} {exc : Exc} {callback : Ptr} {data : Data}
    (h : ¬data.submits E) (w : World) :
    ∃ e t, submit_any E self fn hs exc callback data w = .error (.raised e) t ∧
      t.calls = w.calls ∧ t.raw = w.raw := by
  cases data with
  | other => exact ⟨_, w, rfl, rfl, rfl⟩
  | exporter view =>
    have hbytes : submit_any E self fn hs exc callback (.exporter view) w =
        submit_bytes E self fn hs exc callback view w := rfl
    rw [hbytes]
    unfold submit_bytes check_malloc
    by_cases hctx : E.malloc .ctx = true
    · cases hview : E.no_buffer view with
      | none => exact absurd ⟨hctx, hview⟩ h
      | some t =>
        refine ⟨.cpython t, w, ?_, rfl, rfl⟩
        rw [if_pos hctx, check_ok_bind]
        rfl
    · refine ⟨no_memory, w, ?_, rfl, rfl⟩
      rw [if_neg hctx]
      rfl
  | sequence fast items =>
    cases items with
    | error t => exact ⟨_, w, rfl, rfl, rfl⟩
    | ok items =>
      have htake : (modify (World.take fast) : C PUnit) w = .ok () (w.take fast) := rfl
      have hrun : submit_any E self fn hs exc callback (.sequence fast (.ok items)) w =
          submit_sequence E self fn hs exc callback fast (.ok items) w := rfl
      rw [hrun]
      have hparse : parse (.ok items : Args (List Ptr)) = .ok items := rfl
      unfold submit_sequence
      rw [hparse, check_ok_bind, bind_of_ok htake]
      cases hbad : bad_sequence E items with
      | some e => exact ⟨e, (w.take fast).drop fast, rfl, rfl, rfl⟩
      | none =>
        have hitem : ∃ item ∈ items, E.no_buffer item ≠ none := by
          by_contra hall
          apply h
          obtain ⟨hlen, hctx, hviews⟩ := bad_sequence_none_iff.mp hbad
          exact ⟨hlen, hctx, hviews, by simpa using hall⟩
        obtain ⟨e, t, ht, hcalls, hraw⟩ : ∃ e t, fill_views E fast [] items (w.take fast) =
            .error (.raised e) t ∧ t.calls = w.calls ∧ t.raw = w.raw :=
          fill_views_refused hitem (w.take fast)
        exact ⟨e, t, bind_of_error ht, hcalls, hraw⟩

theorem submit_data_too_early {fn : UvFn} {hs : List Ptr} {exc : Exc} {callback p : Ptr}
    {views : List Ptr} (hself : (w.objs self).initialized = true) (hp : p ∈ hs)
    (hraw : (w.objs p).initialized = false) :
    TooEarly w (submit_data E self fn hs exc callback views) := by
  unfold submit_data
  apply TooEarly.after (t := w.take (callback :: hs)) rfl rfl
  rw [if_neg (List.ne_nil_of_mem hp)]
  have htype : (Obj.type <$> deref self : C UvType) (w.take (callback :: hs)) =
      .ok (w.objs self).type (w.take (callback :: hs)) :=
    bind_of_ok (deref_eq hself)
  apply TooEarly.after htype rfl
  dsimp only
  split
  · refine TooEarly.bind (too_early_uv (List.mem_cons_of_mem self hp) hraw) ?_
    intro err
    apply frame_grows.of_ite
    · apply frame_grows.of_bind (frame_grows.of_uv_error trivial)
      intro e
      exact frame_grows.of_bind frame_grows.of_drop fun _ => frame_grows.of_raise
    · exact frame_grows.of_take
  · exact .inl ⟨_, rfl⟩

/-- Data that is not reaches the handle. -/
theorem submit_any_too_early {fn : UvFn} {hs : List Ptr} {exc : Exc} {callback p : Ptr}
    {data : Data} (hdata : data.submits E) (hself : (w.objs self).initialized = true)
    (hp : p ∈ hs) (hraw : (w.objs p).initialized = false) :
    TooEarly w (submit_any E self fn hs exc callback data) := by
  cases data with
  | other => exact absurd hdata id
  | exporter view =>
    obtain ⟨hctx, hview⟩ := hdata
    change TooEarly w (submit_bytes E self fn hs exc callback view)
    unfold submit_bytes check_malloc
    rw [hctx, if_pos rfl, check_ok_bind, hview, check_ok_bind]
    apply TooEarly.after (t := w.take [view]) rfl rfl
    exact submit_data_too_early hself hp hraw
  | sequence fast items =>
    cases items with
    | error t => exact absurd hdata id
    | ok items =>
      obtain ⟨hlen, hctx, hviews, hitems⟩ := hdata
      change TooEarly w (submit_sequence E self fn hs exc callback fast (.ok items))
      unfold submit_sequence
      rw [parse_ok, check_ok_bind, bad_sequence_none_iff.mpr ⟨hlen, hctx, hviews⟩]
      apply TooEarly.after (t := w.take fast) rfl rfl
      apply TooEarly.after (fill_views_ok hitems (w.take fast)) rfl
      exact submit_data_too_early hself hp hraw

/-- A callback is a callable or None. -/
theorem request_args_eq (E : Env) (data : Data) (callback : Ptr) :
    request_args E (.ok (data, callback)) =
      if callback ≠ Py_None ∧ E.callable callback = false then
        .error (.text .TypeError "'callback' must be a callable or None")
      else .ok (data, callback) := by
  change (callable_or_None E "'callback' must be a callable or None" callback >>=
    fun _ => pure (data, callback)) = _
  unfold callable_or_None
  by_cases h : callback ≠ Py_None ∧ E.callable callback = false
  · rw [if_pos (by simpa using h), if_pos h]
    rfl
  · rw [if_neg (by simpa using h), if_neg h]
    rfl

/-- The condition on the handle that is sent along. -/
theorem guarded_Pipe_write_iff {data : Data} {callback p : Ptr} :
    Guarded E w self (.Pipe_write (.ok ((data, callback), some p))) ↔
      (Usable w self →
        Fit w [p] ((callback ≠ Py_None ∧ E.callable callback = false) ∨
          (w.objs p).cls.is_stream = false ∧ ((w.objs p).cls = .UDP → ¬data.submits E))) := by
  by_cases hself : Usable w self
  · rw [imp_iff_right hself]
    let rest (b : Data × Ptr) : C Unit :=
      carried p "Only TCP and Pipe objects are supported"
          "Only Stream and UDP objects are supported" >>= fun _ =>
        submit_any E self .uv_write2 [p] .stream b.2 b.1
    have hrest : ∀ b, Avoids (rest b) := fun b =>
      avoids_bind avoids_carried fun _ => avoids_submit_any
    have hexec : (Method.Pipe_write (.ok ((data, callback), some p))).exec E self w =
        (check (request_args E (.ok (data, callback))) >>= rest) w :=
      bind_of_ok (guards_usable hself)
    apply guarded_passed_iff rfl rfl hself.1 (.inr hself.2) hexec
    · exact avoids_bind (avoids_check plain_request_args) hrest
    · intro hraw hrefused
      rw [request_args_eq]
      by_cases hcallback : callback ≠ Py_None ∧ E.callable callback = false
      · rw [if_pos hcallback, check_error_bind]
        exact ⟨_, w, rfl, rfl, rfl⟩
      · obtain ⟨hstream, hudp⟩ := hrefused.resolve_left hcallback
        rw [if_neg hcallback, check_ok_bind]
        have hcarried := carried_uninitialized "Only TCP and Pipe objects are supported"
          "Only Stream and UDP objects are supported" hraw
        rw [if_neg (by simp [hstream])] at hcarried
        by_cases hcls : (w.objs p).cls = .UDP
        · rw [if_pos hcls] at hcarried
          obtain ⟨e, t, ht, hcalls, hraw'⟩ :
              ∃ e t, submit_any E self .uv_write2 [p] .stream callback data w =
                .error (.raised e) t ∧ t.calls = w.calls ∧ t.raw = w.raw :=
            submit_any_refused (hudp hcls) w
          exact ⟨e, t, (bind_of_ok hcarried).trans ht, hcalls, hraw'⟩
        · rw [if_neg hcls] at hcarried
          exact ⟨_, w, bind_of_error hcarried, rfl, rfl⟩
    · intro hraw h
      have hcallback := not_or.mp h |>.1
      rw [request_args_eq, if_neg hcallback, check_ok_bind] at hexec
      apply not_guarded_of_too_early hexec (by simp [Method.objects, Method.passed]) hraw
      have hcarried := carried_uninitialized "Only TCP and Pipe objects are supported"
        "Only Stream and UDP objects are supported" hraw
      by_cases hstream : (w.objs p).cls.is_stream = true
      · rw [if_pos hstream] at hcarried
        exact hcarried.bind fun _ => frame_grows.of_submit_any trivial (by simp)
      · have hsubmits : (w.objs p).cls = .UDP ∧ data.submits E := by
          simpa [hstream] using not_or.mp h |>.2
        rw [if_neg hstream, if_pos hsubmits.1] at hcarried
        apply TooEarly.after hcarried rfl
        exact submit_any_too_early hsubmits.2 hself.1 (List.mem_singleton_self p) hraw
  · exact iff_of_true (guarded_of_unusable rfl rfl hself) fun h => absurd h hself

/-! ### Condition.wait and timedwait -/

/-- The mutex is looked at after the condition. -/
theorem guarded_cond_wait_iff {fn : UvFn} {mutex : Ptr}
    (hexec : m.exec E self = func_cond_wait E self fn (.ok mutex)) (hclass : m.on_class = false)
    (hthread : m.of_thread = true) (hpassed : m.passed = [mutex]) :
    Guarded E w self m ↔
      ((w.objs self).initialized = true → Fit w [mutex] ((w.objs mutex).cls ≠ .Mutex)) := by
  by_cases hself : (w.objs self).initialized = true
  · rw [imp_iff_right hself]
    let wait : C Unit := do
      Py_INCREF mutex
      call E fn [self, mutex]
      Py_DECREF mutex
    let body : C Unit := do
      let w ← get
      check (if (w.objs mutex).cls = .Mutex then .ok () else .error (.cpython .TypeError))
      wait
    have hrun : m.exec E self w = body w := by
      rw [hexec]
      exact bind_of_ok (initialized_eq hself)
    apply guarded_passed_iff hclass hpassed hself (.inl hthread) hrun
    · apply avoids_bind avoids_get
      intro v
      apply avoids_bind
      · exact avoids_check (plain_ite plain_ok (plain_error plain_cpython))
      intro _
      apply avoids_bind avoids_modify
      intro _
      exact avoids_bind avoids_call fun _ => avoids_modify
    · intro _ hcls
      refine ⟨.cpython .TypeError, w, ?_, rfl, rfl⟩
      change (check (if (w.objs mutex).cls = .Mutex then .ok () else _) >>= _) w = _
      rw [if_neg hcls]
      rfl
    · intro hraw hcls
      have hbody : m.exec E self w = wait w := by
        refine hrun.trans ?_
        change (check (if (w.objs mutex).cls = .Mutex then .ok () else _) >>= _) w = _
        rw [if_pos (not_not.mp hcls)]
        rfl
      apply not_guarded_of_too_early hbody (by simp [Method.objects, hpassed]) hraw
      apply TooEarly.after (t := w.take [mutex]) rfl rfl
      have hcall : TooEarly (w.take [mutex]) (call E fn [self, mutex]) := by
        refine TooEarly.bind (too_early_uv (List.mem_cons_of_mem self
          (List.mem_singleton_self mutex)) hraw) ?_
        exact fun _ => frame_grows.of_pure
      exact hcall.bind fun _ => frame_grows.of_drop
  · apply iff_of_true _ fun h => absurd h hself
    exact guarded_of_uninitialized hexec hclass (by simpa using hself)

/-! ### Process.spawn -/

theorem stdio_items {items : List (Option StdIO)} {ios : List StdIO}
    (h : items.mapM stdio_item = .ok ios) : items = ios.map some := by
  induction items generalizing ios with
  | nil =>
    cases h
    rfl
  | cons item items ih =>
    rw [List.mapM_cons] at h
    cases item with
    | none => cases h
    | some io =>
      cases hrest : items.mapM stdio_item with
      | error e =>
        rw [hrest] at h
        cases h
      | ok rest =>
        rw [hrest] at h
        cases h
        rw [ih hrest]
        rfl

/-- The streams that libuv is to inherit are some of those of the StdIO objects. -/
theorem spawn_options_streams {a : SpawnArgs} {streams : List Ptr}
    (h : spawn_options E a = .ok streams) : ∀ p ∈ streams, p ∈ a.streams := by
  unfold spawn_options at h
  unfold SpawnArgs.streams
  cases hprepared : a.prepared with
  | error t =>
    rw [hprepared] at h
    cases h
  | ok _ =>
    rw [hprepared] at h
    cases hstdio : a.stdio with
    | none =>
      rw [hstdio] at h
      cases h
      simp
    | some stdio =>
      rw [hstdio] at h
      change (check_malloc E .stdio_container >>= fun _ => _) = _ at h
      unfold check_malloc at h
      by_cases hmalloc : E.malloc .stdio_container = true
      · rw [if_pos hmalloc] at h
        change (stdio.2.mapM stdio_item >>= fun ios => _) = _ at h
        cases hios : stdio.2.mapM stdio_item with
        | error e =>
          rw [hios] at h
          cases h
        | ok ios =>
          rw [hios] at h
          cases h
          change ∀ p ∈ ios.flatMap StdIO.inherited, p ∈ stdio.2.flatMap _
          rw [stdio_items hios]
          intro p hp
          obtain ⟨io, hio, hp⟩ := List.mem_flatMap.mp hp
          have hstream : p ∈ io.stream.toList := by
            unfold StdIO.inherited at hp
            split at hp
            · exact hp
            · cases hp
          exact List.mem_flatMap.mpr ⟨some io, List.mem_map_of_mem hio, hstream⟩
      · rw [if_neg hmalloc] at h
        cases h

theorem avoids_dealloc : Avoids (Handle_tp_dealloc E self) := by
  apply avoids_bind avoids_get
  intro w
  apply avoids_ite
  · apply avoids_bind
    · exact avoids_bind avoids_call fun _ => avoids_modify
    · exact fun _ => avoids_modify
  · exact avoids_modify

theorem avoids_spawn {args : Args SpawnArgs} : Avoids (Process_func_spawn E args) := by
  apply avoids_bind (avoids_check plain_spawn_args)
  intro a
  apply avoids_bind (avoids_check plain_check_malloc)
  intro _
  apply avoids_bind avoids_modify
  intro _
  apply avoids_bind avoids_modify
  intro _
  have hunmade : ∀ {e : PyErr}, e ≠ .handle_closed →
      Avoids (do Py_DECREF E.fresh; Handle_tp_dealloc E E.fresh; raise e : C Unit) := by
    intro e he
    apply avoids_bind avoids_modify
    intro _
    exact avoids_bind avoids_dealloc fun _ => avoids_raise he
  split
  · rename_i e heq
    exact hunmade (plain_spawn_options e heq).1
  · apply avoids_bind avoids_modify
    intro _
    apply avoids_bind avoids_uv
    intro err
    apply avoids_ite
    · exact hunmade (by simp [PyErr.handle_closed])
    · apply avoids_bind avoids_modify
      intro _
      exact avoids_bind avoids_modify fun _ => avoids_modify

/-- A call of libuv stays on record. -/
theorem calls_grow {fn : UvFn} {hs : List Ptr} {f : Int → C Unit} (hf : ∀ err, Grows (f err)) :
    w.calls.length < (last ((uv E fn hs >>= f) w)).calls.length := by
  cases huv : uv E fn hs w with
  | error e t =>
    rw [bind_of_error huv]
    unfold uv at huv
    split at huv <;> cases huv
    simp [last, World.log]
  | ok err t =>
    rw [bind_of_ok huv]
    have ht : w.calls.length < t.calls.length := by
      unfold uv at huv
      split at huv <;> cases huv
      simp [World.log, World.use]
    cases hend : f err t with
    | ok a u => exact lt_of_lt_of_le ht ((hf err).ok trivial hend).2.2
    | error e u => exact lt_of_lt_of_le ht ((hf err).error trivial hend).2.2

/-- The streams of the containers must be fit, unless something else is refused first. -/
theorem guarded_spawn_iff {a : SpawnArgs} :
    Guarded E w self (.Process_spawn (.ok a)) ↔ Fit w a.streams (¬a.reaches E) := by
  by_cases hopen : AllInit a.streams w →
      ∀ p ∈ a.streams, (w.objs p).cls.is_handle = true → (w.objs p).closing = false
  · have hclosed : AllInit ((Method.Process_spawn (.ok a)).objects self) w →
        (∃ p ∈ (Method.Process_spawn (.ok a)).handles w self, (w.objs p).closing = true) →
          Refuses w ((Method.Process_spawn (.ok a)).exec E self) .handle_closed := by
      rintro hall ⟨p, hp, hclosing⟩
      have hmem := List.mem_filter.mp hp
      rw [hopen hall p hmem.1 hmem.2] at hclosing
      cases hclosing
    by_cases hreaches : a.reaches E
    · obtain ⟨streams, hstreams, hrun⟩ := spawn_started hreaches w
      have hexec : (Method.Process_spawn (.ok a)).exec E self w =
          (uv E .uv_spawn (E.fresh :: streams) >>= spawned E E.fresh a)
            (set_obj E.fresh started_process (made_process E a w)) := hrun
      by_cases hinit : AllInit a.streams w
      · refine iff_of_true ⟨?_, hclosed, ?_⟩ ⟨?_, hopen⟩
        · rintro ⟨p, hp, hraw⟩
          rw [hinit p hp] at hraw
          cases hraw
        · rw [hexec]
          have F := frame_neat (E.fresh :: a.streams)
          have hkeeps : Keeps (AllInit (E.fresh :: a.streams)) (fun s t => t.raw = s.raw)
              (uv E .uv_spawn (E.fresh :: streams) >>= spawned E E.fresh a) := by
            apply F.of_bind
            · apply F.of_uv
              intro p hp
              rcases List.mem_cons.mp hp with rfl | hp
              · exact List.mem_cons_self
              · exact List.mem_cons_of_mem _ (spawn_options_streams hstreams p hp)
            · exact fun _ => F.of_spawned List.mem_cons_self
          refine raw_of_keeps hkeeps ?_
          intro p hp
          by_cases hfresh : p = E.fresh
          · have hnew : (set_obj E.fresh started_process (made_process E a w)).objs E.fresh =
                started_process := Function.update_self _ _ _
            rw [hfresh, hnew]
            rfl
          · have hold : ((set_obj E.fresh started_process (made_process E a w)).objs p) =
                w.objs p := by
              refine (Function.update_of_ne hfresh _ _).trans ?_
              exact Function.update_of_ne hfresh _ _
            rw [hold]
            exact hinit p ((List.mem_cons.mp hp).resolve_left hfresh)
        · rintro ⟨p, hp, hraw⟩
          rw [hinit p hp] at hraw
          cases hraw
      · obtain ⟨p, hp, hraw⟩ : ∃ p ∈ a.streams, (w.objs p).initialized = false := by
          simpa [AllInit] using hinit
        apply iff_of_false
        · intro hg
          obtain ⟨e, t, ht, hcalls⟩ := hg.uninitialized ⟨p, hp, hraw⟩
          have hlt : (set_obj E.fresh started_process (made_process E a w)).calls.length <
              (last ((uv E .uv_spawn (E.fresh :: streams) >>= spawned E E.fresh a)
                (set_obj E.fresh started_process (made_process E a w)))).calls.length :=
            calls_grow fun _ => frame_grows.of_spawned trivial
          rw [← hexec, ht] at hlt
          change w.calls.length < t.calls.length at hlt
          rw [hcalls] at hlt
          exact lt_irrefl _ hlt
        · intro hfit
          exact hfit.1 ⟨p, hp, hraw⟩ hreaches
    · obtain ⟨e, t, ht, -, hapart⟩ := spawn_refused hreaches w
      refine iff_of_true ⟨fun _ => ⟨e, t, ht, hapart.calls⟩, hclosed, ?_⟩ ⟨fun _ => hreaches, hopen⟩
      change (last (Process_func_spawn E (.ok a) w)).raw = w.raw
      rw [ht]
      exact hapart.raw
  · apply iff_of_false
    · obtain ⟨hinit, p, hp, hhandle, hclosing⟩ : AllInit a.streams w ∧
          ∃ p ∈ a.streams, (w.objs p).cls.is_handle = true ∧ (w.objs p).closing = true := by
        simpa using hopen
      have hmem : p ∈ (Method.Process_spawn (.ok a)).handles w self :=
        List.mem_filter.mpr ⟨hp, hhandle⟩
      exact not_guarded_of_avoids (x := Process_func_spawn E (.ok a)) rfl avoids_spawn hinit hmem
        hclosing
    · exact fun hfit => hopen hfit.2

/-! ## All of them -/

theorem guarded_of_no_spawn {t : ExcType} : Guarded E w self (.Process_spawn (.error t)) := by
  refine ⟨?_, ?_, rfl⟩
  · rintro ⟨p, hp, -⟩
    cases hp
  · rintro - ⟨p, hp, -⟩
    cases hp

/-- Which calls of which methods are guarded, whatever the state of the objects is. -/
theorem operations_are_guarded_iff (E : Env) (w : World) (self : Ptr) (m : Method) :
    Guarded E w self m ↔ m.covered E w self := by
  cases m with
  | Handle_set_ref val => exact guarded_Handle_set_ref_iff
  | Handle_set_dict val => exact guarded_Handle_set_dict_iff
  | TCP_accept args =>
    cases args with
    | ok client => exact guarded_TCP_accept_iff
    | error t => exact iff_of_true (guarded_of_guards rfl rfl rfl) trivial
  | Pipe_accept args =>
    cases args with
    | ok client => exact guarded_Pipe_accept_iff
    | error t => exact iff_of_true (guarded_of_guards rfl rfl rfl) trivial
  | Pipe_write args =>
    rcases args with t | ⟨⟨data, callback⟩, _ | p⟩
    · exact iff_of_true (guarded_of_guards rfl rfl rfl) trivial
    · exact iff_of_true (guarded_of_guards rfl rfl rfl) trivial
    · exact guarded_Pipe_write_iff
  | Condition_wait args =>
    cases args with
    | ok mutex => exact guarded_cond_wait_iff rfl rfl rfl rfl
    | error t => exact iff_of_true (guarded_of_init_guard rfl rfl rfl rfl) trivial
  | Condition_timedwait args =>
    cases args with
    | ok a => exact guarded_cond_wait_iff rfl rfl rfl rfl
    | error t => exact iff_of_true (guarded_of_init_guard rfl rfl rfl rfl) trivial
  | Process_spawn args =>
    cases args with
    | ok a => exact guarded_spawn_iff
    | error t => exact iff_of_true guarded_of_no_spawn trivial
  | Process_close args => exact iff_of_true guarded_Process_close trivial
  | TTY_reset_mode | Process_disable_stdio_inheritance =>
    exact iff_of_true (guarded_of_class rfl rfl rfl) trivial
  | Timer_set_repeat _
  | TCP_set_sndbuf _ | TCP_set_rcvbuf _ | Pipe_set_sndbuf _ | Pipe_set_rcvbuf _
  | UDP_set_sndbuf _ | UDP_set_rcvbuf _
  | Barrier_wait | Mutex_lock | Mutex_unlock | Mutex_trylock | RWLock_rdlock | RWLock_rdunlock
  | RWLock_tryrdlock | RWLock_wrlock | RWLock_wrunlock | RWLock_trywrlock | Condition_signal
  | Condition_broadcast | Semaphore_post | Semaphore_wait | Semaphore_trywait =>
    exact iff_of_true (guarded_of_init_guard rfl rfl rfl rfl) trivial
  | _ => exact iff_of_true (guarded_of_guards rfl rfl rfl) trivial

/-- `Timer.__new__(Timer).ref = True` -/
theorem a_new_timer_is_referenced_unchecked :
    ¬∀ (E : Env) (w : World) (self : Ptr) (m : Method), Guarded E w self m := by
  let new_timer : Obj :=
    { cls := .Timer, initialized := false, type := .UV_UNKNOWN_HANDLE, closing := false
      typed := by decide, concrete := by decide, other := by decide }
  intro h
  have hunused := (h (willing fun _ => 0) (World.of new_timer) 1 (.Handle_set_ref (.ok 1))).unused
  have hused : (last ((Method.Handle_set_ref (.ok 1)).exec (willing fun _ => 0) 1
      (World.of new_timer))).raw = [1] := rfl
  rw [hused] at hunused
  cases hunused

end pyuv.methods
