-- What every method keeps: a relation that the calls of libuv, the looks at its structures and
-- the changes of the Python objects keep is one that the methods keep, on every path. And what a
-- test of the arguments raises: never the exception of a closed handle, nor one of libuv.
import Pyuv.Methods

set_option linter.style.nameCheck false

namespace pyuv.methods

open ends
open addr_tuples (PyObj)

/-! ## The tests of the arguments -/

/-- An exception of neither of the two kinds that say something about a handle. -/
def PyErr.plain (e : PyErr) : Prop := e ≠ .handle_closed ∧ ∀ t r, e ≠ .uv t r

/-- A test that fails does so with a plain exception. -/
def Plain {α : Type} (v : Except PyErr α) : Prop := ∀ e, v = .error e → PyErr.plain e

variable {E : Env} {α β : Type}

theorem plain_ok {a : α} : Plain (.ok a) := fun _ h => nomatch h

/-- Exceptions of the interpreter are no libuv errors. -/
theorem plain_cpython {t : ExcType} : PyErr.plain (.cpython t) := by
  constructor
  · intro h
    cases h
  · intro _ _ h
    cases h

theorem plain_text {t : ExcType} {msg : String} (h : t ≠ .HandleClosedError) :
    PyErr.plain (.text t msg) := by
  constructor
  · intro heq
    cases heq
    exact h rfl
  · intro _ _ h
    cases h

theorem plain_error {e : PyErr} (h : PyErr.plain e) : Plain (.error e : Except PyErr α) := by
  intro e' he
  cases he
  exact h

/-- Checks in a row. -/
theorem plain_bind {v : Except PyErr α} {f : α → Except PyErr β} (hv : Plain v)
    (hf : ∀ a, Plain (f a)) : Plain (v >>= f) := by
  cases v with
  | ok a => exact hf a
  | error e => exact plain_error (hv e rfl)

theorem plain_ite {c : Prop} [Decidable c] {v v' : Except PyErr α} (h : Plain v)
    (h' : Plain v') : Plain (if c then v else v') := by
  split
  · exact h
  · exact h'

theorem plain_parse {args : Args α} : Plain (parse args) := by
  cases args with
  | ok a => exact plain_ok
  | error t => exact plain_error plain_cpython

theorem plain_a_callable {callback : Ptr} : Plain (a_callable E callback) :=
  plain_ite plain_ok (plain_error (plain_text (by decide)))

theorem plain_callable_or_None {msg : String} {callback : Ptr} :
    Plain (callable_or_None E msg callback) :=
  plain_ite (plain_error (plain_text (by decide))) plain_ok

theorem plain_not_negative {msg : String} {x : ℚ} : Plain (not_negative msg x) :=
  plain_ite (plain_error (plain_text (by decide))) plain_ok

theorem plain_no_memory : PyErr.plain no_memory := plain_cpython

theorem plain_check_malloc {site : Site} : Plain (check_malloc E site) :=
  plain_ite plain_ok (plain_error plain_no_memory)

theorem plain_new_value {value : Option (Args α)} : Plain (new_value value) := by
  cases value with
  | none => exact plain_error (plain_text (by decide))
  | some value => exact plain_parse

theorem plain_parse_s {item : addr_tuples.PyItem} : Plain (addr_tuples.parse_s item) := by
  cases item with
  | str text => exact plain_ite (plain_error plain_cpython) plain_ok
  | surrogates => exact plain_error plain_cpython
  | int n => exact plain_error plain_cpython
  | other name => exact plain_error plain_cpython

theorem plain_parse_i {item : addr_tuples.PyItem} : Plain (addr_tuples.parse_i item) := by
  cases item with
  | int n => exact plain_ite plain_ok (plain_error plain_cpython)
  | str text => exact plain_error plain_cpython
  | surrogates => exact plain_error plain_cpython
  | other name => exact plain_error plain_cpython

theorem plain_parse_I {item : addr_tuples.PyItem} : Plain (addr_tuples.parse_I item) := by
  cases item with
  | int n => exact plain_ok
  | str text => exact plain_error plain_cpython
  | surrogates => exact plain_error plain_cpython
  | other name => exact plain_error plain_cpython

/-- The address tuple raises what its parts raise. -/
theorem plain_tuple {items : List addr_tuples.PyItem} :
    Plain (addr_tuples.PyArg_ParseTuple items) := by
  unfold addr_tuples.PyArg_ParseTuple
  split
  · exact plain_bind plain_parse_s fun _ => plain_bind plain_parse_i fun _ => plain_ok
  · exact plain_bind plain_parse_s fun _ => plain_bind plain_parse_i fun _ =>
      plain_bind plain_parse_I fun _ => plain_ok
  · exact plain_bind plain_parse_s fun _ => plain_bind plain_parse_i fun _ =>
      plain_bind plain_parse_I fun _ => plain_bind plain_parse_I fun _ => plain_ok
  · exact plain_error plain_cpython

theorem plain_fill_sockaddr {a : addr_tuples.Parsed} :
    Plain (addr_tuples.fill_sockaddr E.order E.inet a) := by
  unfold addr_tuples.fill_sockaddr
  apply plain_ite plain_ok
  apply plain_ite plain_ok
  split
  · exact plain_ok
  · split
    · exact plain_ok
    · exact plain_error (plain_text (by decide))

theorem plain_address {addr : PyObj} : Plain (address E addr) := by
  refine plain_bind ?_ fun _ => plain_ok
  cases addr with
  | other name => exact plain_error (plain_text (by decide))
  | tuple items =>
    apply plain_bind plain_tuple
    intro a
    apply plain_ite (plain_error (plain_text (by decide)))
    apply plain_ite (plain_error (plain_text (by decide)))
    exact plain_fill_sockaddr

theorem plain_start_args {args : Args Ptr} : Plain (start_args E args) :=
  plain_bind plain_parse fun _ => plain_bind plain_a_callable fun _ => plain_ok

theorem plain_address_args {args : Args PyObj} : Plain (address_args E args) :=
  plain_bind plain_parse fun _ => plain_address

theorem plain_request_args {args : Args (Data × Ptr)} : Plain (request_args E args) :=
  plain_bind plain_parse fun _ => plain_bind plain_callable_or_None fun _ => plain_ok

theorem plain_ttl_args {args : Args Int} : Plain (ttl_args args) :=
  plain_bind plain_parse fun _ => plain_ite (plain_error (plain_text (by decide))) plain_ok

/-- All refusals of a sequence of buffers. -/
theorem plain_bad_sequence {items : List Ptr} {e : PyErr} (h : bad_sequence E items = some e) :
    PyErr.plain e := by
  unfold bad_sequence at h
  split at h
  · cases h
    exact plain_text (by decide)
  · split at h
    · cases h
      exact plain_text (by decide)
    · split at h
      · cases h
        exact plain_no_memory
      · split at h
        · cases h
          exact plain_no_memory
        · cases h

/-- The exception that is made of a status has that status. -/
theorem uv_error_cases (self : Ptr) (err : Int) (exc : Exc) (s : World) :
    (∃ u, uv_error self err exc s = .error .crash u) ∨
      ∃ t u, uv_error self err exc s = .ok (.uv t err) u := by
  cases exc with
  | type t => exact .inr ⟨t, s, rfl⟩
  | stream =>
    cases ho : deref self s with
    | error e u =>
      left
      refine ⟨u, ?_⟩
      have he : e = .crash := by
        unfold deref at ho
        split at ho <;> cases ho
        rfl
      subst he
      exact bind_of_error ho
    | ok o u =>
      unfold uv_error
      dsimp only
      rw [bind_of_ok ho]
      cases stream_exc o.type with
      | none => exact .inl ⟨u, rfl⟩
      | some t => exact .inr ⟨t, u, rfl⟩

/-! ## Relations -/

/-- The changes that the methods consist of keep `I` and are in `R`, as far as the structures
that are used are those of objects with `P`. -/
structure Frame (P : Ptr → Prop) (I : World → Prop) (R : World → World → Prop) : Prop where
  refl : ∀ s, R s s
  trans : ∀ {s t u}, R s t → R t u → R s u
  -- the fields and the reference counts of the Python objects
  own : ∀ {s t}, t.objs = s.objs → t.raw = s.raw → t.calls = s.calls → I s → I t ∧ R s t
  use : ∀ {s hs}, (∀ p ∈ hs, P p) → I s → I (s.use hs) ∧ R s (s.use hs)
  log : ∀ {s c}, I s → I (s.log c) ∧ R s (s.log c)
  closing : ∀ {s p}, P p → I s → I (set_closing p s) ∧ R s (set_closing p s)

variable {P : Ptr → Prop} {I : World → Prop} {R : World → World → Prop} {self : Ptr}

theorem Frame.of_bind (F : Frame P I R) {x : C α} {f : α → C β} (hx : Keeps I R x)
    (hf : ∀ a, Keeps I R (f a)) : Keeps I R (x >>= f) :=
  Keeps.bind (fun h₁ h₂ => F.trans h₁ h₂) hx hf

theorem Frame.of_pure (F : Frame P I R) {a : α} : Keeps I R (pure a : C α) := Keeps.pure F.refl

theorem Frame.of_throw (F : Frame P I R) {e : Stop} : Keeps I R (throw e : C α) :=
  Keeps.throw F.refl

theorem Frame.of_raise (F : Frame P I R) {e : PyErr} : Keeps I R (raise e : C α) := F.of_throw

theorem Frame.of_ite (_ : Frame P I R) {c : Prop} [Decidable c] {m m' : C α}
    (h : Keeps I R m) (h' : Keeps I R m') : Keeps I R (if c then m else m') :=
  Keeps.ite h h'

theorem Frame.of_get (F : Frame P I R) : Keeps I R (get : C World) :=
  fun s hs => ⟨hs, F.refl s⟩

/-- A change of the Python objects. -/
theorem Frame.of_modify (F : Frame P I R) {f : World → World} (hobjs : ∀ w, (f w).objs = w.objs)
    (hraw : ∀ w, (f w).raw = w.raw) (hcalls : ∀ w, (f w).calls = w.calls) :
    Keeps I R (modify f : C PUnit) :=
  Keeps.modify fun s hs => F.own (hobjs s) (hraw s) (hcalls s) hs

/-- A check of the arguments sees no object. -/
theorem Frame.of_check (F : Frame P I R) {v : Except PyErr α} : Keeps I R (check v) := by
  cases v with
  | ok a => exact F.of_pure
  | error e => exact F.of_raise

/-- A use of the struct. It must be one of an object that the frame allows. -/
theorem Frame.of_deref (F : Frame P I R) (hself : P self) : Keeps I R (deref self) := by
  intro s hs
  unfold deref
  split <;> rename_i heq <;> split at heq <;> cases heq
  · exact F.use (by simpa using hself) hs
  · exact ⟨hs, F.refl s⟩

theorem Frame.of_uv (F : Frame P I R) {fn : UvFn} {hs : List Ptr} (h : ∀ p ∈ hs, P p) :
    Keeps I R (uv E fn hs) := by
  intro s hinit
  unfold uv
  split <;> rename_i heq <;> split at heq <;> cases heq
  · obtain ⟨hI, huse⟩ := F.use h hinit
    obtain ⟨hI', hlog⟩ := F.log hI
    exact ⟨hI', F.trans huse hlog⟩
  · exact F.log hinit

theorem Frame.of_call (F : Frame P I R) {fn : UvFn} {hs : List Ptr} (h : ∀ p ∈ hs, P p) :
    Keeps I R (call E fn hs) := by
  unfold call
  apply F.of_bind (F.of_uv h)
  intro _
  exact F.of_pure

/-- The exception is chosen by the loop of the object. -/
theorem Frame.of_uv_error (F : Frame P I R) (hself : P self) {err : Int} {exc : Exc} :
    Keeps I R (uv_error self err exc) := by
  cases exc with
  | type t => exact F.of_pure
  | stream =>
    apply F.of_bind (F.of_deref hself)
    intro o
    split
    · exact F.of_pure
    · exact F.of_throw

theorem Frame.of_raise_if_negative (F : Frame P I R) (hself : P self) {exc : Exc} {err : Int} :
    Keeps I R (raise_if_negative self exc err) := by
  unfold raise_if_negative
  apply F.of_ite
  · apply F.of_bind (F.of_uv_error hself)
    intro e
    exact F.of_raise
  · exact F.of_pure

theorem Frame.of_take (F : Frame P I R) {l : List Ptr} :
    Keeps I R (modify (World.take l) : C Unit) :=
  F.of_modify (fun _ => rfl) (fun _ => rfl) (fun _ => rfl)

theorem Frame.of_drop (F : Frame P I R) {l : List Ptr} :
    Keeps I R (modify (World.drop l) : C Unit) :=
  F.of_modify (fun _ => rfl) (fun _ => rfl) (fun _ => rfl)

theorem Frame.of_put (F : Frame P I R) {slot : Slot} {value : Option Ptr} :
    Keeps I R (modify (World.put self slot value) : C Unit) :=
  F.of_modify (fun _ => rfl) (fun _ => rfl) (fun _ => rfl)

theorem Frame.of_set_slot (F : Frame P I R) {slot : Slot} {value : Option Ptr} :
    Keeps I R (modify (World.set_slot self slot value) : C Unit) :=
  F.of_modify (fun _ => rfl) (fun _ => rfl) (fun _ => rfl)

theorem Frame.of_handle_incref (F : Frame P I R) : Keeps I R (PYUV_HANDLE_INCREF self) := by
  apply F.of_modify <;> intro w <;> split <;> rfl

theorem Frame.of_handle_decref (F : Frame P I R) : Keeps I R (PYUV_HANDLE_DECREF self) := by
  apply F.of_modify <;> intro w <;> split <;> rfl

theorem Frame.of_raise_if_not_initialized (F : Frame P I R) :
    Keeps I R (RAISE_IF_NOT_INITIALIZED self) :=
  F.of_bind F.of_get fun _ => F.of_check

/-- The two guards of a method. -/
theorem Frame.of_guards (F : Frame P I R) (hself : P self) : Keeps I R (handle_guards self) := by
  apply F.of_bind F.of_raise_if_not_initialized
  intro _
  apply F.of_bind (F.of_deref hself)
  intro o
  exact F.of_check

theorem Frame.of_uv_close (F : Frame P I R) (hself : P self) : Keeps I R (uv_close E self) := by
  apply F.of_bind (F.of_call (by simpa using hself))
  intro _
  exact Keeps.modify fun s hs => F.closing hself hs

/-! ## The shapes of the methods -/

theorem Frame.of_func_start (F : Frame P I R) (hself : P self) {slot : Slot} {fn : UvFn} {exc : Exc}
    {args : Except PyErr Ptr} : Keeps I R (func_start E self slot fn exc args) := by
  apply F.of_bind (F.of_guards hself)
  intro _
  apply F.of_bind F.of_check
  intro callback
  apply F.of_bind (F.of_uv (by simpa using hself))
  intro err
  apply F.of_bind (F.of_raise_if_negative hself)
  intro _
  apply F.of_bind F.of_put
  intro _
  exact F.of_handle_incref

theorem Frame.of_func_stop (F : Frame P I R) (hself : P self) {fn : UvFn} {exc : Exc}
    {slot : Option Slot} :
    Keeps I R (func_stop E self fn exc slot) := by
  apply F.of_bind (F.of_guards hself)
  intro _
  apply F.of_bind (F.of_uv (by simpa using hself))
  intro err
  apply F.of_bind (F.of_raise_if_negative hself)
  intro _
  apply F.of_bind
  · cases slot with
    | none => exact F.of_pure
    | some slot => exact F.of_put
  · exact fun _ => F.of_handle_decref

theorem Frame.of_func_call (F : Frame P I R) (hself : P self) {fn : UvFn} {exc : Exc}
    {args : Except PyErr α} :
    Keeps I R (func_call E self fn exc args) := by
  apply F.of_bind (F.of_guards hself)
  intro _
  apply F.of_bind F.of_check
  intro _
  apply F.of_bind (F.of_uv (by simpa using hself))
  intro err
  exact F.of_raise_if_negative hself

theorem Frame.of_func_void (F : Frame P I R) (hself : P self) {fn : UvFn} {args : Except PyErr α} :
    Keeps I R (func_void E self fn args) := by
  apply F.of_bind (F.of_guards hself)
  intro _
  apply F.of_bind F.of_check
  intro _
  exact F.of_call (by simpa using hself)

theorem Frame.of_attr_set (F : Frame P I R) (hself : P self) {fn : UvFn} {exc : ExcType}
    {value : Except PyErr α} :
    Keeps I R (attr_set E self fn exc value) := by
  apply F.of_bind F.of_raise_if_not_initialized
  intro _
  apply F.of_bind F.of_check
  intro _
  apply F.of_bind (F.of_uv (by simpa using hself))
  intro err
  exact F.of_raise_if_negative hself

theorem Frame.of_func_sync (F : Frame P I R) (hself : P self) {fn : UvFn} :
    Keeps I R (func_sync E self fn) := by
  apply F.of_bind F.of_raise_if_not_initialized
  intro _
  exact F.of_call (by simpa using hself)

theorem Frame.of_func_cond_wait (F : Frame P I R) (hself : P self) {fn : UvFn} {args : Args Ptr}
    (hargs : ∀ p, args = .ok p → P p) : Keeps I R (func_cond_wait E self fn args) := by
  apply F.of_bind F.of_raise_if_not_initialized
  intro _
  cases args with
  | error t =>
    rw [parse_error, check_error_bind]
    exact F.of_raise
  | ok mutex =>
    rw [parse_ok, check_ok_bind]
    apply F.of_bind F.of_get
    intro w
    apply F.of_bind F.of_check
    intro _
    apply F.of_bind F.of_take
    intro _
    apply F.of_bind (F.of_call (by simpa [hself] using hargs))
    intro _
    exact F.of_drop

theorem Frame.of_func_listen (F : Frame P I R) (hself : P self) {exc : ExcType}
    {args : Args (Ptr × Int)} :
    Keeps I R (func_listen E self exc args) := by
  apply F.of_bind (F.of_guards hself)
  intro _
  apply F.of_bind F.of_check
  intro callback
  apply F.of_bind (F.of_uv (by simpa using hself))
  intro err
  apply F.of_bind (F.of_raise_if_negative hself)
  intro _
  exact F.of_put

theorem Frame.of_func_try (F : Frame P I R) (hself : P self) {fn : UvFn} {exc : Exc}
    {args : Args (Except PyErr Unit × Ptr)} : Keeps I R (func_try E self fn exc args) := by
  apply F.of_bind (F.of_guards hself)
  intro _
  apply F.of_bind F.of_check
  intro a
  apply F.of_bind F.of_take
  intro _
  obtain ⟨addr, data⟩ := a
  cases addr with
  | error e => exact F.of_bind F.of_drop fun _ => F.of_raise
  | ok _ =>
    apply F.of_bind (F.of_uv (by simpa using hself))
    intro err
    apply F.of_ite
    · apply F.of_bind (F.of_uv_error hself)
      intro e
      exact F.of_bind F.of_drop fun _ => F.of_raise
    · exact F.of_drop

theorem Frame.of_submit (F : Frame P I R) (hself : P self) {fn : UvFn} {hs : List Ptr}
    (h : ∀ p ∈ hs, P p)
    {exc : Exc} {taken : List Ptr} : Keeps I R (submit E self fn hs exc taken) := by
  apply F.of_bind (F.of_uv h)
  intro err
  apply F.of_ite
  · apply F.of_bind (F.of_uv_error hself)
    intro e
    exact F.of_bind F.of_drop fun _ => F.of_raise
  · exact F.of_take

/-- By induction on the items that are left. -/
theorem Frame.of_fill_views (F : Frame P I R) {fast done items : List Ptr} :
    Keeps I R (fill_views E fast done items) := by
  induction items generalizing done with
  | nil => exact F.of_pure
  | cons item items ih =>
    unfold fill_views
    split
    · exact F.of_bind F.of_drop fun _ => F.of_raise
    · exact F.of_bind F.of_take fun _ => ih

theorem Frame.of_submit_data (F : Frame P I R) (hself : P self) {fn : UvFn} {hs : List Ptr}
    (h : ∀ p ∈ hs, P p)
    {exc : Exc} {callback : Ptr} {views : List Ptr} :
    Keeps I R (submit_data E self fn hs exc callback views) := by
  apply F.of_bind F.of_take
  intro _
  have hsubmit : ∀ {taken : List Ptr}, Keeps I R (submit E self fn (self :: hs) exc taken) := by
    intro taken
    apply F.of_submit hself
    intro p hp
    rcases List.mem_cons.mp hp with rfl | hp
    · exact hself
    · exact h p hp
  split
  · exact F.of_bind F.of_pure fun _ => F.of_ite hsubmit F.of_throw
  · apply F.of_bind
    · exact F.of_bind (F.of_deref hself) fun _ => F.of_pure
    · exact fun _ => F.of_ite hsubmit F.of_throw

theorem Frame.of_submit_any (F : Frame P I R) (hself : P self) {fn : UvFn} {hs : List Ptr}
    (h : ∀ p ∈ hs, P p)
    {exc : Exc} {callback : Ptr} {data : Data} :
    Keeps I R (submit_any E self fn hs exc callback data) := by
  cases data with
  | other => exact F.of_raise
  | exporter view =>
    apply F.of_bind F.of_check
    intro _
    apply F.of_bind F.of_check
    intro _
    apply F.of_bind F.of_take
    intro _
    exact F.of_submit_data hself h
  | sequence fast items =>
    apply F.of_bind F.of_check
    intro items
    apply F.of_bind F.of_take
    intro _
    split
    · exact F.of_bind F.of_drop fun _ => F.of_raise
    · exact F.of_bind F.of_fill_views fun _ => F.of_submit_data hself h

theorem Frame.of_checked_call (F : Frame P I R) (hself : P self) {fn : UvFn} {hs : List Ptr}
    (h : ∀ p ∈ hs, P p) : Keeps I R (checked_call E fn self hs) :=
  F.of_bind (F.of_uv h) fun _ => F.of_raise_if_negative hself

theorem Frame.of_alloc_connect_req (F : Frame P I R) {callback : Ptr} :
    Keeps I R (alloc_connect_req E callback) :=
  F.of_ite F.of_pure (F.of_bind F.of_drop fun _ => F.of_raise)

/-! ## The methods one by one -/

theorem Frame.of_Handle_func_close (F : Frame P I R) (hself : P self) {args : Args Ptr} :
    Keeps I R (Handle_func_close E self args) := by
  apply F.of_bind (F.of_guards hself)
  intro _
  apply F.of_bind F.of_check
  intro callback
  apply F.of_bind F.of_take
  intro _
  apply F.of_bind F.of_set_slot
  intro _
  apply F.of_bind F.of_take
  intro _
  exact F.of_uv_close hself

theorem Frame.of_SignalChecker_func_start (F : Frame P I R) (hself : P self) :
    Keeps I R (SignalChecker_func_start E self) := by
  apply F.of_bind (F.of_guards hself)
  intro _
  apply F.of_bind (F.of_uv (by simpa using hself))
  intro err
  apply F.of_bind (F.of_raise_if_negative hself)
  intro _
  exact F.of_handle_incref

theorem Frame.of_Stream_func_shutdown (F : Frame P I R) (hself : P self) {args : Args Ptr} :
    Keeps I R (Stream_func_shutdown E self args) := by
  apply F.of_bind (F.of_guards hself)
  intro _
  apply F.of_bind F.of_check
  intro callback
  apply F.of_bind F.of_check
  intro _
  apply F.of_bind F.of_take
  intro _
  exact F.of_submit hself (by simpa using hself)

theorem Frame.of_Stream_func_write (F : Frame P I R) (hself : P self) {args : Args (Data × Ptr)} :
    Keeps I R (Stream_func_write E self args) := by
  apply F.of_bind (F.of_guards hself)
  intro _
  apply F.of_bind F.of_check
  intro a
  exact F.of_submit_any hself (by simp)

theorem Frame.of_UDP_func_send (F : Frame P I R) (hself : P self)
    {args : Args (PyObj × Data × Ptr)} :
    Keeps I R (UDP_func_send E self args) := by
  apply F.of_bind (F.of_guards hself)
  intro _
  apply F.of_bind F.of_check
  intro a
  exact F.of_submit_any hself (by simp)

theorem Frame.of_TCP_func_connect (F : Frame P I R) (hself : P self) {args : Args (PyObj × Ptr)} :
    Keeps I R (TCP_func_connect E self args) := by
  apply F.of_bind (F.of_guards hself)
  intro _
  apply F.of_bind F.of_check
  intro callback
  apply F.of_bind F.of_take
  intro _
  apply F.of_bind F.of_alloc_connect_req
  intro _
  exact F.of_submit hself (by simpa using hself)

theorem Frame.of_Pipe_func_bind (F : Frame P I R) (hself : P self) {args : Args Name} :
    Keeps I R (Pipe_func_bind E self args) := by
  apply F.of_bind (F.of_guards hself)
  intro _
  apply F.of_bind F.of_check
  intro name
  have hcall : ∀ {fn : UvFn} {hs : List Ptr}, (∀ p ∈ hs, p = self) →
      Keeps I R (checked_call E fn self hs) := fun h =>
    F.of_checked_call hself fun p hp => h p hp ▸ hself
  cases name with
  | ordinary => exact hcall (by simp)
  | abstract =>
    apply F.of_bind (hcall (by simp))
    intro _
    apply F.of_bind (hcall (by simp))
    intro _
    exact hcall (by simp)

theorem Frame.of_Pipe_func_connect (F : Frame P I R) (hself : P self) {args : Args (Name × Ptr)} :
    Keeps I R (Pipe_func_connect E self args) := by
  apply F.of_bind (F.of_guards hself)
  intro _
  apply F.of_bind F.of_check
  intro a
  obtain ⟨name, callback⟩ := a
  cases name with
  | ordinary =>
    apply F.of_bind F.of_take
    intro _
    apply F.of_bind F.of_alloc_connect_req
    intro _
    apply F.of_bind (F.of_call (by simpa using hself))
    intro _
    exact F.of_take
  | abstract =>
    have hcall : ∀ {fn : UvFn} {hs : List Ptr}, (∀ p ∈ hs, p = self) →
        Keeps I R (checked_call E fn self hs) := fun h =>
      F.of_checked_call hself fun p hp => h p hp ▸ hself
    apply F.of_bind (hcall (by simp))
    intro _
    apply F.of_bind (hcall (by simp))
    intro _
    apply F.of_bind (hcall (by simp))
    intro _
    apply F.of_bind F.of_check
    intro _
    apply F.of_bind (hcall (by simp))
    intro _
    apply F.of_bind F.of_take
    intro _
    exact hcall (by simp)

theorem Frame.of_Timer_repeat_set (F : Frame P I R) (hself : P self) {value : Option (Args ℚ)} :
    Keeps I R (Timer_repeat_set E self value) := by
  apply F.of_bind F.of_raise_if_not_initialized
  intro _
  apply F.of_bind F.of_check
  intro _
  exact F.of_call (by simpa using hself)

theorem Frame.of_Process_func_close (F : Frame P I R) (hself : P self) {args : Args Ptr} :
    Keeps I R (Process_func_close E self args) := by
  apply F.of_bind F.of_get
  intro w
  apply F.of_bind F.of_check
  intro _
  exact F.of_Handle_func_close hself

/-- The stream that a Pipe sends along. -/
theorem Frame.of_carried (F : Frame P I R) {p : Ptr} (hp : P p) {wrong_type wrong_class : String} :
    Keeps I R (carried p wrong_type wrong_class) := by
  apply F.of_bind F.of_get
  intro w
  apply F.of_ite
  · exact F.of_bind (F.of_deref hp) fun _ => F.of_check
  · exact F.of_check

/-- The client is a second object. -/
theorem Frame.of_TCP_func_accept (F : Frame P I R) (hself : P self) {args : Args Ptr}
    (hargs : ∀ p, args = .ok p → P p) : Keeps I R (TCP_func_accept E self args) := by
  apply F.of_bind (F.of_guards hself)
  intro _
  cases args with
  | error t =>
    rw [parse_error, check_error_bind]
    exact F.of_raise
  | ok client =>
    rw [parse_ok, check_ok_bind]
    apply F.of_bind F.of_get
    intro w
    apply F.of_bind F.of_check
    intro _
    apply F.of_bind (F.of_uv (by simpa [hself] using hargs))
    intro err
    exact F.of_raise_if_negative hself

theorem Frame.of_Pipe_func_accept (F : Frame P I R) (hself : P self) {args : Args Ptr}
    (hargs : ∀ p, args = .ok p → P p) : Keeps I R (Pipe_func_accept E self args) := by
  apply F.of_bind (F.of_guards hself)
  intro _
  cases args with
  | error t =>
    rw [parse_error, check_error_bind]
    exact F.of_raise
  | ok client =>
    have hclient : P client := hargs client rfl
    rw [parse_ok, check_ok_bind]
    apply F.of_bind (F.of_carried hclient)
    intro _
    apply F.of_bind (F.of_uv (by simpa [hself] using hclient))
    intro err
    exact F.of_raise_if_negative hself

/-- The handle that is sent is one. -/
theorem Frame.of_Pipe_func_write (F : Frame P I R) (hself : P self)
    {args : Args ((Data × Ptr) × Option Ptr)} (hargs : ∀ a p, args = .ok (a, some p) → P p) :
    Keeps I R (Pipe_func_write E self args) := by
  apply F.of_bind (F.of_guards hself)
  intro _
  cases args with
  | error t =>
    rw [parse_error, check_error_bind]
    exact F.of_raise
  | ok a =>
    obtain ⟨a, send_handle⟩ := a
    rw [parse_ok, check_ok_bind]
    apply F.of_bind F.of_check
    intro b
    cases send_handle with
    | none => exact F.of_submit_any hself (by simp)
    | some p =>
      have hp : P p := hargs a p rfl
      exact F.of_bind (F.of_carried hp) fun _ => F.of_submit_any hself (by simpa using hp)

/-- Every method but spawn, which makes an object. -/
theorem Frame.of_exec (F : Frame P I R) (hself : P self) {m : Method}
    (hpassed : ∀ p ∈ m.passed, P p) (hspawn : ∀ args, m ≠ .Process_spawn args) :
    Keeps I R (m.exec E self) := by
  cases m with
  | Handle_close args => exact F.of_Handle_func_close hself
  | Handle_set_ref val =>
    apply F.of_bind F.of_check
    intro ref
    exact F.of_ite (F.of_call (by simpa using hself)) (F.of_call (by simpa using hself))
  | Handle_set_dict val =>
    apply F.of_bind F.of_check
    intro val
    exact F.of_put
  | SignalChecker_start => exact F.of_SignalChecker_func_start hself
  | Stream_shutdown args => exact F.of_Stream_func_shutdown hself
  | Stream_write args => exact F.of_Stream_func_write hself
  | UDP_send args => exact F.of_UDP_func_send hself
  | TCP_connect args => exact F.of_TCP_func_connect hself
  | Pipe_bind args => exact F.of_Pipe_func_bind hself
  | Pipe_connect args => exact F.of_Pipe_func_connect hself
  | Timer_set_repeat value => exact F.of_Timer_repeat_set hself
  | Process_close args => exact F.of_Process_func_close hself
  | TTY_reset_mode => exact F.of_call (by simp)
  | Process_disable_stdio_inheritance => exact F.of_call (by simp)
  | Process_spawn args => exact absurd rfl (hspawn args)
  | TCP_accept args =>
    exact F.of_TCP_func_accept hself fun p hp => hpassed p (by simp [hp, Method.passed])
  | Pipe_accept args =>
    exact F.of_Pipe_func_accept hself fun p hp => hpassed p (by simp [hp, Method.passed])
  | Pipe_write args =>
    exact F.of_Pipe_func_write hself fun a p hp => hpassed p (by simp [hp, Method.passed])
  | Condition_wait args =>
    exact F.of_func_cond_wait hself fun p hp => hpassed p (by simp [hp, Method.passed])
  | Condition_timedwait args =>
    apply F.of_func_cond_wait hself
    intro p hp
    cases args with
    | error t => cases hp
    | ok a =>
      cases hp
      exact hpassed a.1 (by simp [Method.passed])
  | Timer_start _ | Prepare_start _ | Idle_start _ | Check_start _ | Signal_start _
  | Poll_start _ | FSEvent_start _ | FSPoll_start _ | Stream_start_read _ | UDP_start_recv _ =>
    exact F.of_func_start hself
  | Timer_stop | Prepare_stop | Idle_stop | Check_stop | Signal_stop | SignalChecker_stop
  | Poll_stop | FSEvent_stop | FSPoll_stop | Stream_stop_read | UDP_stop_recv =>
    exact F.of_func_stop hself
  | TCP_listen _ | Pipe_listen _ => exact F.of_func_listen hself
  | Stream_try_write _ | UDP_try_send _ => exact F.of_func_try hself
  | Pipe_pending_instances _ | Pipe_pending_handle_type | UDP_open _ => exact F.of_func_void hself
  | TCP_set_sndbuf _ | TCP_set_rcvbuf _ | Pipe_set_sndbuf _ | Pipe_set_rcvbuf _
  | UDP_set_sndbuf _ | UDP_set_rcvbuf _ => exact F.of_attr_set hself
  | Barrier_wait | Mutex_lock | Mutex_unlock | Mutex_trylock | RWLock_rdlock | RWLock_rdunlock
  | RWLock_tryrdlock | RWLock_wrlock | RWLock_wrunlock | RWLock_trywrlock | Condition_signal
  | Condition_broadcast | Semaphore_post | Semaphore_wait | Semaphore_trywait =>
    exact F.of_func_sync hself
  | _ => exact F.of_func_call hself

/-! ## Spawn -/

/-- A spawn gets as far as libuv. -/
def SpawnArgs.reaches (E : Env) (a : SpawnArgs) : Prop :=
  (∃ b, spawn_args E (.ok a) = .ok b) ∧ E.malloc .self = true ∧
    ∃ streams, spawn_options E a = .ok streams

/-- Only the object at `p` can be another one. -/
structure Apart (p : Ptr) (s t : World) : Prop where
  objs : ∀ q ≠ p, t.objs q = s.objs q
  sides : ∀ q ≠ p, t.sides q = s.sides q
  refs : ∀ q ≠ p, t.refs q = s.refs q
  calls : t.calls = s.calls
  raw : t.raw = s.raw

/-- The new object, with its reference to the loop. -/
def made_process (E : Env) (a : SpawnArgs) (w : World) : World :=
  (Process_tp_new E.fresh w).put E.fresh .loop (some a.loop)

theorem Frame.of_spawned (F : Frame P I R) (hself : P self) {a : SpawnArgs} {err : Int} :
    Keeps I R (spawned E self a err) := by
  apply F.of_ite
  · apply F.of_bind F.of_drop
    intro _
    apply F.of_bind
    · apply F.of_bind F.of_get
      intro w
      apply F.of_ite
      · exact F.of_bind (F.of_uv_close hself) fun _ => F.of_take
      · exact F.of_put
    · exact fun _ => F.of_raise
  · apply F.of_bind F.of_put
    intro _
    exact F.of_bind F.of_put fun _ => F.of_take

theorem plain_spawn_args {args : Args SpawnArgs} : Plain (spawn_args E args) := by
  apply plain_bind plain_parse
  intro a
  apply plain_bind plain_callable_or_None
  intro _
  dsimp only
  split
  · exact plain_error (plain_text (by decide))
  · split
    · exact plain_error (plain_text (by decide))
    · exact plain_ok

theorem plain_mapM {f : α → Except PyErr β} {items : List α} (hf : ∀ a, Plain (f a)) :
    Plain (items.mapM f) := by
  induction items with
  | nil => exact plain_ok
  | cons item items ih =>
    rw [List.mapM_cons]
    exact plain_bind (hf item) fun _ => plain_bind ih fun _ => plain_ok

theorem plain_spawn_options {a : SpawnArgs} : Plain (spawn_options E a) := by
  apply plain_bind plain_parse
  intro _
  split
  · exact plain_ok
  · apply plain_bind plain_check_malloc
    intro _
    refine plain_bind (plain_mapM fun item => ?_) fun _ => plain_ok
    cases item with
    | some io => exact plain_ok
    | none => exact plain_error (plain_text (by decide))

/-- The arguments are given on as they are. -/
theorem spawn_args_ok {a b : SpawnArgs} (h : spawn_args E (.ok a) = .ok b) : b = a := by
  unfold spawn_args at h
  rw [parse_ok] at h
  change (callable_or_None E "a callable is required" a.callback >>= fun _ => _) = _ at h
  cases hcallback : callable_or_None E "a callable is required" a.callback with
  | error e =>
    rw [hcallback] at h
    cases h
  | ok _ =>
    rw [hcallback] at h
    change (if _ then _ else _) = _ at h
    split at h
    · cases h
    · change (if _ then _ else _) = _ at h
      split at h
      · cases h
      · cases h
        rfl

/-- A spawn with good arguments reaches uv_spawn with a new object. -/
theorem spawn_started {a : SpawnArgs} (h : a.reaches E) (w : World) :
    ∃ streams, spawn_options E a = .ok streams ∧
      Process_func_spawn E (.ok a) w =
        spawn_process E E.fresh a streams (made_process E a w) := by
  obtain ⟨⟨b, hb⟩, hself, streams, hstreams⟩ := h
  rw [spawn_args_ok hb] at hb
  refine ⟨streams, hstreams, ?_⟩
  unfold Process_func_spawn check_malloc
  rw [hb, check_ok_bind, if_pos hself, check_ok_bind, hstreams]
  rfl

/-- The end of an object that libuv has not seen. -/
theorem dealloc_unseen {self : Ptr} {s : World} (h : (s.objs self).initialized = false) :
    Handle_tp_dealloc E self s = .ok () (s.put self .loop none) := by
  change (if (s.objs self).initialized ∧ !(s.objs self).closing then _ else _ : C Unit) s = _
  rw [h]
  rfl

/-- The new object holds its loop. -/
theorem made_process_refs {a : SpawnArgs} {w : World} {q : Ptr} (hq : q ≠ E.fresh) :
    (made_process E a w).refs q = w.refs q + [a.loop].count q := by
  have hnew : (Process_tp_new E.fresh w).refs q = w.refs q := Function.update_of_ne hq _ _
  unfold made_process
  rw [World.put_refs, hnew]
  simp [Process_tp_new]

/-- What the new object held is given back. -/
theorem apart_unmade {a : SpawnArgs} {w : World} :
    Apart E.fresh w (((made_process E a w).drop [E.fresh]).put E.fresh .loop none) where
  objs q hq := Function.update_of_ne hq _ _
  sides q hq := by
    rw [World.put_sides_of_ne hq]
    exact (World.put_sides_of_ne hq _ _ _).trans (Function.update_of_ne hq _ _)
  refs q hq := by
    have hself : [E.fresh].count q = 0 := List.count_eq_zero.mpr (by simpa using hq)
    have hloop : ((made_process E a w).sides E.fresh).slot .loop = some a.loop :=
      World.put_slot _ _ _ _
    rw [World.put_refs]
    change (made_process E a w).refs q - ([E.fresh].count q : ℤ) + 0 -
      (((made_process E a w).sides E.fresh).slot .loop).toList.count q = w.refs q
    rw [made_process_refs hq, hself, hloop]
    simp
  calls := rfl
  raw := rfl

/-- Where a spawn does not get so far there is no new object, or one that is gone again. -/
theorem spawn_refused_world {a : SpawnArgs} (h : ¬a.reaches E) (w : World) :
    ∃ e t, Process_func_spawn E (.ok a) w = .error (.raised e) t ∧ PyErr.plain e ∧
      (t = w ∨ t = ((made_process E a w).drop [E.fresh]).put E.fresh .loop none) := by
  cases hargs : spawn_args E (.ok a) with
  | error e =>
    refine ⟨e, w, ?_, plain_spawn_args e hargs, .inl rfl⟩
    unfold Process_func_spawn
    rw [hargs]
    rfl
  | ok b =>
    have hb := spawn_args_ok hargs
    subst hb
    by_cases hself : E.malloc .self = true
    · cases hoptions : spawn_options E b with
      | ok streams => exact absurd ⟨⟨b, hargs⟩, hself, streams, hoptions⟩ h
      | error e =>
        refine ⟨e, _, ?_, plain_spawn_options e hoptions, .inr rfl⟩
        unfold Process_func_spawn check_malloc
        rw [hargs, check_ok_bind, if_pos hself, check_ok_bind, hoptions]
        have hunseen :
          (((made_process E b w).drop [E.fresh]).objs E.fresh).initialized = false := by
          simp [made_process, Process_tp_new, World.put, World.drop, World.set_slot, World.take,
            set_obj, new_process]
        have hdealloc : Handle_tp_dealloc E E.fresh ((made_process E b w).drop [E.fresh]) = _ :=
          dealloc_unseen hunseen
        exact bind_of_ok hdealloc
    · refine ⟨no_memory, w, ?_, plain_no_memory, .inl rfl⟩
      unfold Process_func_spawn check_malloc
      rw [hargs, check_ok_bind, if_neg hself]
      rfl

/-- It leaves the other objects alone. -/
theorem spawn_refused {a : SpawnArgs} (h : ¬a.reaches E) (w : World) :
    ∃ e t, Process_func_spawn E (.ok a) w = .error (.raised e) t ∧ PyErr.plain e ∧
      Apart E.fresh w t := by
  obtain ⟨e, t, hrun, hplain, hworld⟩ := spawn_refused_world h w
  refine ⟨e, t, hrun, hplain, ?_⟩
  rcases hworld with rfl | rfl
  · constructor <;> simp
  · exact apart_unmade (a := a)

end pyuv.methods
