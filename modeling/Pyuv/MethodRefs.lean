-- The references that the methods take and give back. A method that raises has given back what it
-- took and left the fields alone, one that goes through holds no less than before, and only those
-- that start, stop and listen, with the setter of __dict__, give back what a field of the handle
-- held.
import Pyuv.Lib.Holders
import Pyuv.MethodGuards

set_option linter.style.nameCheck false

namespace pyuv.methods

open ends holders
open addr_tuples (PyObj)

variable {E : Env} {s t u w : World} {self q new : Ptr} {α β : Type} {bad : Int → Prop}
  {good : World → World → Prop} {back back' k k' : Int}

/-! ## What is owed -/

/-- The fields are the same, and there are `k` more references to `q`. -/
def Has (q : Ptr) (k : Int) (s t : World) : Prop := t.sides = s.sides ∧ t.refs q = s.refs q + k

/-- The fields are the same, and there are no fewer references to `q`. -/
def Gains (q : Ptr) (s t : World) : Prop := t.sides = s.sides ∧ s.refs q ≤ t.refs q

/-- Where a program raises it has left the fields alone and given back `back` references to `q`. The
others that it keeps or gives away are as `bad` says. -/
def Owes (q : Ptr) (bad : Int → Prop) (back : Int) (good : World → World → Prop) (x : C α) : Prop :=
  Ends (fun _ => True) (fun s _ t => good s t)
    (fun s e t => e = .crash ∨ t.sides = s.sides ∧ bad (t.refs q - s.refs q + back)) x

theorem Has.gains (h : Has q k s t) (hk : 0 ≤ k) : Gains q s t := by
  obtain ⟨hsides, hrefs⟩ := h
  exact ⟨hsides, by omega⟩

/-- The references of two parts add up. -/
theorem Has.trans (h : Has q k s t) (h' : Has q k' t u) : Has q (k + k') s u := by
  refine ⟨h'.1.trans h.1, ?_⟩
  rw [h'.2, h.2]
  omega

theorem Has.trans_gains (h : Has q k s t) (hk : 0 ≤ k) (h' : Gains q t u) : Gains q s u := by
  obtain ⟨hsides, hrefs⟩ := h
  obtain ⟨hsides', hrefs'⟩ := h'
  exact ⟨hsides'.trans hsides, by omega⟩

/-- Less about the end without an exception. -/
theorem Owes.mono {good' : World → World → Prop} {x : C α} (h : Owes q bad back good x)
    (hgood : ∀ s t, good s t → good' s t) : Owes q bad back good' x :=
  Ends.mono h (fun _ hs => hs) (fun s _ t _ hst => hgood s t hst) (fun _ _ _ _ h => h)

/-- What the first part has taken is owed by the second one too. -/
theorem Owes.bind {good' : World → World → Prop} {x : C α} {f : α → C β}
    (hx : Owes q bad back (Has q k) x) (hback : back' = back + k)
    (hf : ∀ a, Owes q bad back' good (f a))
    (hgood : ∀ s t u, Has q k s t → good t u → good' s u) : Owes q bad back good' (x >>= f) := by
  apply Ends.bind hx hf
  · intro _ _ _ _ _
    trivial
  · intro s a t b u _ hst htu
    exact hgood s t u hst htu
  · intro _ _ _ _ h
    exact h
  · intro s a t e u _ hst htu
    rcases htu with hcrash | ⟨hsides, hbad⟩
    · exact .inl hcrash
    · have heq : u.refs q - s.refs q + back = u.refs q - t.refs q + back' := by
        rw [hst.2, hback]
        omega
      rw [← heq] at hbad
      exact .inr ⟨hsides.trans hst.1, hbad⟩

/-- What the first part took is owed by the second. -/
theorem Owes.bind_has {x : C α} {f : α → C β} (hx : Owes q bad back (Has q k) x)
    (hback : back' = back + k) (hf : ∀ a, Owes q bad back' (Has q k') (f a)) :
    Owes q bad back (Has q (k + k')) (x >>= f) :=
  hx.bind hback hf fun _ _ _ h h' => h.trans h'

theorem Owes.bind_gains {x : C α} {f : α → C β} (hx : Owes q bad back (Has q k) x) (hk : 0 ≤ k)
    (hback : back' = back + k) (hf : ∀ a, Owes q bad back' (Gains q) (f a)) :
    Owes q bad back (Gains q) (x >>= f) :=
  hx.bind hback hf fun _ _ _ h h' => h.trans_gains hk h'

/-- A first part that takes nothing. -/
theorem Owes.after {x : C α} {f : α → C β} (hx : Owes q bad back (Has q 0) x)
    (hf : ∀ a, Owes q bad back (Gains q) (f a)) : Owes q bad back (Gains q) (x >>= f) :=
  hx.bind_gains (Int.le_refl 0) (by omega) hf

/-- A first part that takes nothing. -/
theorem Owes.quiet {x : C α} {f : α → C β} (hx : Owes q bad back (Has q 0) x)
    (hf : ∀ a, Owes q bad back (fun _ _ => True) (f a)) :
    Owes q bad back (fun _ _ => True) (x >>= f) :=
  hx.bind (by omega) hf fun _ _ _ _ _ => trivial

theorem Owes.has_after {x : C α} {f : α → C β} (hx : Owes q bad back (Has q 0) x)
    (hf : ∀ a, Owes q bad back (Has q k) (f a)) : Owes q bad back (Has q k) (x >>= f) := by
  have hbind := hx.bind_has (by omega) hf
  rwa [zero_add] at hbind

theorem Owes.gains {x : C α} (h : Owes q bad back (Has q k) x) (hk : 0 ≤ k) :
    Owes q bad back (Gains q) x := h.mono fun _ _ hst => hst.gains hk

theorem has_refl : Has q 0 s s := ⟨rfl, by omega⟩

theorem owes_pure {a : α} : Owes q bad back (Has q 0) (pure a : C α) :=
  Ends.pure fun _ _ => has_refl

theorem owes_crash : Owes q bad back good (throw .crash : C α) := Ends.throw fun _ _ => .inl rfl

theorem owes_ite {c : Prop} [Decidable c] {x y : C α} (hx : Owes q bad back good x)
    (hy : Owes q bad back good y) : Owes q bad back good (if c then x else y) :=
  Ends.ite (fun _ => hx) (fun _ => hy)

theorem owes_get : Owes q bad back (Has q 0) (get : C World) := fun _ _ => has_refl

theorem owes_take {l : List Ptr} :
    Owes q bad back (Has q (l.count q)) (modify (World.take l) : C Unit) :=
  Ends.modify fun _ _ => ⟨rfl, rfl⟩

theorem owes_drop {l : List Ptr} :
    Owes q bad back (Has q (-l.count q)) (modify (World.drop l) : C Unit) :=
  Ends.modify fun _ _ => ⟨rfl, rfl⟩

theorem owes_deref {p : Ptr} : Owes q bad back (Has q 0) (deref p) := by
  intro s _
  unfold deref
  split <;> rename_i heq <;> split at heq <;> cases heq
  · exact has_refl
  · exact .inl rfl

theorem owes_uv {fn : UvFn} {hs : List Ptr} : Owes q bad back (Has q 0) (uv E fn hs) := by
  intro s _
  unfold uv
  split <;> rename_i heq <;> split at heq <;> cases heq
  · exact has_refl
  · exact .inl rfl

theorem owes_call {fn : UvFn} {hs : List Ptr} : Owes q bad back (Has q 0) (call E fn hs) :=
  owes_uv.has_after fun _ => owes_pure

theorem owes_uv_error {err : Int} {exc : Exc} :
    Owes q bad back (Has q 0) (uv_error self err exc) := by
  cases exc with
  | type t => exact owes_pure
  | stream =>
    apply owes_deref.has_after
    intro o
    split
    · exact owes_pure
    · exact owes_crash

/-- Nothing may be owed at an exception. -/
theorem owes_raise {e : PyErr} (hbad : bad 0) : Owes q bad 0 good (raise e : C α) := by
  apply Ends.throw
  intro s _
  refine .inr ⟨rfl, ?_⟩
  rwa [sub_self, add_zero]

theorem owes_check {v : Except PyErr α} (hbad : bad 0) : Owes q bad 0 (Has q 0) (check v) := by
  cases v with
  | ok a => exact owes_pure
  | error e => exact owes_raise hbad

theorem owes_check_bind {v : Except PyErr α} {f : α → C β} (hbad : bad 0)
    (hf : ∀ a, v = .ok a → Owes q bad 0 good (f a)) : Owes q bad 0 good (check v >>= f) := by
  cases v with
  | ok a => exact hf a rfl
  | error e => exact owes_raise hbad

theorem owes_raise_if_negative {exc : Exc} {err : Int} (hbad : bad 0) :
    Owes q bad 0 (Has q 0) (raise_if_negative self exc err) :=
  owes_ite (owes_uv_error.has_after fun _ => owes_raise hbad) owes_pure

theorem owes_initialized (hbad : bad 0) : Owes q bad 0 (Has q 0) (RAISE_IF_NOT_INITIALIZED self) :=
  owes_get.has_after fun _ => owes_check hbad

theorem owes_guards (hbad : bad 0) : Owes q bad 0 (Has q 0) (handle_guards self) :=
  (owes_initialized hbad).has_after fun _ => owes_deref.has_after fun _ => owes_check hbad

/-! ## Methods that leave the fields alone -/

/-- What is owed is dropped before the exception. -/
theorem owes_drop_raise {l : List Ptr} {e : PyErr} (hbad : bad 0) :
    Owes q bad (l.count q) good (do
      modify (World.drop l)
      raise e : C α) := by
  have hraise : Owes q bad 0 (fun _ _ => False) (raise e : C α) := owes_raise hbad
  exact owes_drop.bind (by omega) (fun _ => hraise) fun _ _ _ _ h => h.elim

/-- What a request has taken is given back where libuv refuses it. -/
theorem owes_submit {fn : UvFn} {hs : List Ptr} {exc : Exc} {taken : List Ptr} (hbad : bad 0) :
    Owes q bad (taken.count q) (Gains q) (submit E self fn hs exc taken) := by
  apply owes_uv.after
  intro err
  apply owes_ite
  · exact owes_uv_error.after fun e => owes_drop_raise hbad
  · exact owes_take.gains (Int.natCast_nonneg _)

/-- The views are owed while the request is not on its way. -/
theorem owes_submit_data {fn : UvFn} {hs : List Ptr} {exc : Exc} {callback : Ptr}
    {views : List Ptr} (hbad : bad 0) :
    Owes q bad (views.count q) (Gains q) (submit_data E self fn hs exc callback views) := by
  apply owes_take.bind_gains (Int.natCast_nonneg _) rfl
  intro _
  have hrest : ∀ type : UvType, Owes q bad (views.count q + ((callback :: hs).count q : Int))
      (Gains q) (if type = .UV_NAMED_PIPE then
        submit E self fn (self :: hs) exc (callback :: hs ++ views)
      else throw .crash) := by
    intro type
    apply owes_ite
    · have hcount : (views.count q : Int) + (callback :: hs).count q =
          (callback :: hs ++ views).count q := by
        rw [List.count_append]
        omega
      rw [hcount]
      exact owes_submit hbad
    · exact owes_crash
  apply owes_ite
  · exact owes_pure.after hrest
  · exact (owes_deref.has_after fun _ => owes_pure).after hrest

theorem owes_submit_bytes {fn : UvFn} {hs : List Ptr} {exc : Exc} {callback data : Ptr}
    (hbad : bad 0) : Owes q bad 0 (Gains q) (submit_bytes E self fn hs exc callback data) := by
  apply (owes_check hbad).after
  intro _
  apply (owes_check hbad).after
  intro _
  apply owes_take.bind_gains (Int.natCast_nonneg _) (zero_add _).symm
  intro _
  exact owes_submit_data hbad

/-- The views that were taken before a bad item are owed, and so is the list of the items. -/
theorem owes_fill_views {fast done items : List Ptr} (hbad : bad 0) :
    Owes q bad ((done ++ fast).count q) (Has q (items.count q)) (fill_views E fast done items) := by
  induction items generalizing done with
  | nil => exact owes_pure
  | cons item items ih =>
    unfold fill_views
    cases E.no_buffer item with
    | some t => exact owes_drop_raise hbad
    | none =>
      have hcount : (item :: items).count q = [item].count q + items.count q := by
        rw [← List.count_append]
        rfl
      rw [hcount, Nat.cast_add]
      have hback : ((item :: done ++ fast).count q : Int) =
          (done ++ fast).count q + [item].count q := by
        rw [List.cons_append, ← List.singleton_append, List.count_append]
        omega
      exact owes_take.bind_has hback fun _ => ih

theorem owes_submit_sequence {fn : UvFn} {hs : List Ptr} {exc : Exc} {callback : Ptr}
    {fast : List Ptr} {items : Args (List Ptr)} (hbad : bad 0) :
    Owes q bad 0 (Gains q) (submit_sequence E self fn hs exc callback fast items) := by
  apply (owes_check hbad).after
  intro items
  apply owes_take.bind_gains (Int.natCast_nonneg _) (zero_add _).symm
  intro _
  cases bad_sequence E items with
  | some e => exact owes_drop_raise hbad
  | none =>
    apply (owes_fill_views hbad).bind_gains (Int.natCast_nonneg _) rfl
    intro _
    have hcount : (([] ++ fast).count q : Int) + items.count q = (items ++ fast).count q := by
      rw [List.nil_append, List.count_append]
      omega
    rw [hcount]
    exact owes_submit_data hbad

theorem owes_submit_any {fn : UvFn} {hs : List Ptr} {exc : Exc} {callback : Ptr} {data : Data}
    (hbad : bad 0) : Owes q bad 0 (Gains q) (submit_any E self fn hs exc callback data) := by
  cases data with
  | exporter view => exact owes_submit_bytes hbad
  | sequence fast items => exact owes_submit_sequence hbad
  | other => exact owes_raise hbad

theorem owes_func_call {fn : UvFn} {exc : Exc} {args : Except PyErr α} (hbad : bad 0) :
    Owes q bad 0 (Has q 0) (func_call E self fn exc args) := by
  apply (owes_guards hbad).has_after
  intro _
  apply (owes_check hbad).has_after
  intro _
  apply owes_uv.has_after
  intro err
  exact owes_raise_if_negative hbad

theorem owes_func_void {fn : UvFn} {args : Except PyErr α} (hbad : bad 0) :
    Owes q bad 0 (Has q 0) (func_void E self fn args) := by
  apply (owes_guards hbad).has_after
  intro _
  apply (owes_check hbad).has_after
  intro _
  exact owes_call

theorem owes_attr_set {fn : UvFn} {exc : ExcType} {value : Except PyErr α} (hbad : bad 0) :
    Owes q bad 0 (Has q 0) (attr_set E self fn exc value) := by
  apply (owes_initialized hbad).has_after
  intro _
  apply (owes_check hbad).has_after
  intro _
  apply owes_uv.has_after
  intro err
  exact owes_raise_if_negative hbad

theorem owes_func_sync {fn : UvFn} (hbad : bad 0) :
    Owes q bad 0 (Has q 0) (func_sync E self fn) :=
  (owes_initialized hbad).has_after fun _ => owes_call

theorem owes_func_cond_wait {fn : UvFn} {args : Args Ptr} (hbad : bad 0) :
    Owes q bad 0 (Gains q) (func_cond_wait E self fn args) := by
  apply (owes_initialized hbad).after
  intro _
  apply (owes_check hbad).after
  intro mutex
  apply owes_get.after
  intro w
  apply (owes_check hbad).after
  intro _
  have hwait : ∀ back, Owes q bad back (Has q ([mutex].count q + -[mutex].count q)) (do
      Py_INCREF mutex
      call E fn [self, mutex]
      Py_DECREF mutex : C Unit) :=
    fun back => owes_take.bind_has rfl fun _ => owes_call.has_after fun _ => owes_drop
  exact (hwait 0).gains (by omega)

/-- The view is given back on each way out. -/
theorem owes_func_try {fn : UvFn} {exc : Exc} {args : Args (Except PyErr Unit × Ptr)}
    (hbad : bad 0) : Owes q bad 0 (Gains q) (func_try E self fn exc args) := by
  apply (owes_guards hbad).after
  intro _
  apply (owes_check hbad).after
  intro a
  obtain ⟨addr, data⟩ := a
  have hview : ∀ x : C Unit, Owes q bad ([data].count q) (Has q (-[data].count q)) x →
      Owes q bad 0 (Gains q) (Py_INCREF data >>= fun _ => x) := by
    intro x hx
    apply owes_take.bind (zero_add _).symm fun _ => hx
    intro s t u h h'
    exact (h.trans h').gains (by omega)
  apply hview
  cases addr with
  | error e => exact owes_drop_raise hbad
  | ok _ =>
    apply owes_uv.has_after
    intro err
    apply owes_ite
    · exact owes_uv_error.has_after fun _ => owes_drop_raise hbad
    · exact owes_drop

theorem owes_alloc_connect_req {callback : Ptr} (hbad : bad 0) :
    Owes q bad ([callback].count q) (Has q 0) (alloc_connect_req E callback) := by
  apply owes_ite
  · exact owes_pure
  · exact owes_drop_raise hbad

theorem owes_carried {p : Ptr} {wrong_type wrong_class : String} (hbad : bad 0) :
    Owes q bad 0 (Has q 0) (carried p wrong_type wrong_class) := by
  apply owes_get.has_after
  intro w
  apply owes_ite
  · exact owes_deref.has_after fun _ => owes_check hbad
  · exact owes_check hbad

theorem owes_checked_call {fn : UvFn} {hs : List Ptr} (hbad : bad 0) :
    Owes q bad 0 (Has q 0) (checked_call E fn self hs) :=
  owes_uv.has_after fun _ => owes_raise_if_negative hbad

theorem owes_Stream_func_shutdown {args : Args Ptr} (hbad : bad 0) :
    Owes q bad 0 (Gains q) (Stream_func_shutdown E self args) := by
  apply (owes_guards hbad).after
  intro _
  apply (owes_check hbad).after
  intro callback
  apply (owes_check hbad).after
  intro _
  apply owes_take.bind_gains (Int.natCast_nonneg _) (zero_add _).symm
  intro _
  exact owes_submit hbad

theorem owes_Stream_func_write {args : Args (Data × Ptr)} (hbad : bad 0) :
    Owes q bad 0 (Gains q) (Stream_func_write E self args) := by
  apply (owes_guards hbad).after
  intro _
  apply (owes_check hbad).after
  intro a
  exact owes_submit_any hbad

theorem owes_UDP_func_send {args : Args (PyObj × Data × Ptr)} (hbad : bad 0) :
    Owes q bad 0 (Gains q) (UDP_func_send E self args) := by
  apply (owes_guards hbad).after
  intro _
  apply (owes_check hbad).after
  intro a
  exact owes_submit_any hbad

theorem owes_TCP_func_connect {args : Args (PyObj × Ptr)} (hbad : bad 0) :
    Owes q bad 0 (Gains q) (TCP_func_connect E self args) := by
  apply (owes_guards hbad).after
  intro _
  apply (owes_check hbad).after
  intro callback
  apply owes_take.bind_gains (Int.natCast_nonneg _) (zero_add _).symm
  intro _
  apply (owes_alloc_connect_req hbad).after
  intro _
  exact owes_submit hbad

theorem owes_TCP_func_accept {args : Args Ptr} (hbad : bad 0) :
    Owes q bad 0 (Has q 0) (TCP_func_accept E self args) := by
  apply (owes_guards hbad).has_after
  intro _
  apply (owes_check hbad).has_after
  intro client
  apply owes_get.has_after
  intro w
  apply (owes_check hbad).has_after
  intro _
  apply owes_uv.has_after
  intro err
  exact owes_raise_if_negative hbad

theorem owes_Pipe_func_accept {args : Args Ptr} (hbad : bad 0) :
    Owes q bad 0 (Has q 0) (Pipe_func_accept E self args) := by
  apply (owes_guards hbad).has_after
  intro _
  apply (owes_check hbad).has_after
  intro client
  apply (owes_carried hbad).has_after
  intro _
  apply owes_uv.has_after
  intro err
  exact owes_raise_if_negative hbad

theorem owes_Pipe_func_bind {args : Args Name} (hbad : bad 0) :
    Owes q bad 0 (Has q 0) (Pipe_func_bind E self args) := by
  apply (owes_guards hbad).has_after
  intro _
  apply (owes_check hbad).has_after
  intro name
  cases name with
  | ordinary => exact owes_checked_call hbad
  | abstract =>
    apply (owes_checked_call hbad).has_after
    intro _
    apply (owes_checked_call hbad).has_after
    intro _
    exact owes_checked_call hbad

/-- Where more than is owed may be kept, less may be given back. -/
theorem Owes.keeping {x : C α} (h : Owes q bad back good x)
    (hup : ∀ d d', d ≤ d' → bad d → bad d') (hle : back ≤ back') : Owes q bad back' good x := by
  apply Ends.mono h (fun _ hs => hs) (fun _ _ _ _ hst => hst)
  intro s e t _ hend
  rcases hend with hcrash | ⟨hsides, hbad⟩
  · exact .inl hcrash
  · exact .inr ⟨hsides, hup _ _ (by omega) hbad⟩

/-- Of an abstract name the references for the timer stay when it does not start. -/
theorem owes_Pipe_func_connect_abstract {callback : Ptr} (hbad : bad 0)
    (hup : ∀ d d', d ≤ d' → bad d → bad d') :
    Owes q bad 0 (Gains q) (Pipe_func_connect_abstract E self callback) := by
  apply (owes_checked_call hbad).after
  intro _
  apply (owes_checked_call hbad).after
  intro _
  apply (owes_checked_call hbad).after
  intro _
  apply (owes_check hbad).after
  intro _
  apply (owes_checked_call hbad).after
  intro _
  apply owes_take.bind_gains (Int.natCast_nonneg _) (zero_add _).symm
  intro _
  have htimer : Owes q bad 0 (Has q 0) (checked_call E .uv_timer_start self []) :=
    owes_checked_call hbad
  exact (htimer.keeping hup (Int.natCast_nonneg _)).gains (Int.le_refl 0)

theorem owes_Pipe_func_connect {args : Args (Name × Ptr)} (hbad : bad 0)
    (hup : (∀ d d', d ≤ d' → bad d → bad d') ∨ ∀ callback, args ≠ .ok (.abstract, callback)) :
    Owes q bad 0 (Gains q) (Pipe_func_connect E self args) := by
  apply (owes_guards hbad).after
  intro _
  apply owes_check_bind hbad
  rintro ⟨name, callback⟩ hok
  have hargs : args = .ok (name, callback) := by
    cases args with
    | error t => cases hok
    | ok a =>
      change (a_callable E a.2 >>= fun _ => .ok (a.1, a.2)) = .ok (name, callback) at hok
      cases hcallable : a_callable E a.2 with
      | error e =>
        rw [hcallable] at hok
        cases hok
      | ok _ =>
        rw [hcallable] at hok
        cases hok
        rfl
  cases name with
  | ordinary =>
    apply owes_take.bind_gains (Int.natCast_nonneg _) (zero_add _).symm
    intro _
    apply (owes_alloc_connect_req hbad).after
    intro _
    apply owes_call.after
    intro _
    exact owes_take.gains (Int.natCast_nonneg _)
  | abstract =>
    rcases hup with hup | hnot
    · exact owes_Pipe_func_connect_abstract hbad hup
    · exact absurd hargs (hnot callback)

theorem owes_Timer_repeat_set {value : Option (Args ℚ)} (hbad : bad 0) :
    Owes q bad 0 (Has q 0) (Timer_repeat_set E self value) := by
  apply (owes_initialized hbad).has_after
  intro _
  apply (owes_check hbad).has_after
  intro _
  exact owes_call

theorem owes_Pipe_func_write {args : Args ((Data × Ptr) × Option Ptr)} (hbad : bad 0) :
    Owes q bad 0 (Gains q) (Pipe_func_write E self args) := by
  apply (owes_guards hbad).after
  intro _
  apply (owes_check hbad).after
  intro a
  obtain ⟨a, send_handle⟩ := a
  apply (owes_check hbad).after
  intro b
  cases send_handle with
  | none => exact owes_submit_any hbad
  | some p => exact (owes_carried hbad).after fun _ => owes_submit_any hbad

/-! ## Methods that change a field of their handle -/

/-- A field that gets another value, and PYUV__PYREF set or cleared. -/
structure Change where
  field : Option (Slot × Option Ptr)
  pyref : Option Bool

/-- A field of the handle gets a new value, where one is given. -/
def store (self : Ptr) (field : Option (Slot × Option Ptr)) (w : World) : World :=
  match field with
  | some (slot, value) => w.put self slot value
  | none => w

/-- PYUV__PYREF is set or cleared with its reference, where it is told to. -/
def set_flag (self : Ptr) (pyref : Option Bool) (w : World) : World :=
  match pyref with
  | some true => if (w.sides self).pyref then w else (w.set_pyref self true).take [self]
  | some false => if (w.sides self).pyref then (w.set_pyref self false).drop [self] else w
  | none => w

/-- What a method makes of the fields and the flag of its handle. -/
def Change.apply (change : Change) (self : Ptr) (w : World) : World :=
  set_flag self change.pyref (store self change.field w)

/-- The reference of the value that a field had, and that of the one it gets. -/
def replaced (self : Ptr) (w : World) : Option (Slot × Option Ptr) → List Ptr
  | some (slot, _) => ((w.sides self).slot slot).toList
  | none => []

/-- The reference that a field takes. -/
def stored : Option (Slot × Option Ptr) → List Ptr
  | some (_, value) => value.toList
  | none => []

/-- The same for the flag. -/
def unflagged (self : Ptr) (w : World) : Option Bool → List Ptr
  | some false => if (w.sides self).pyref then [self] else []
  | _ => []

/-- The reference that the flag takes. -/
def flagged (self : Ptr) (w : World) : Option Bool → List Ptr
  | some true => if (w.sides self).pyref then [] else [self]
  | _ => []

/-- The references that a change gives back, and those that it takes. -/
def Change.given (change : Change) (self : Ptr) (w : World) : List Ptr :=
  replaced self w change.field ++ unflagged self w change.pyref

/-- The references that a change takes. -/
def Change.taken (change : Change) (self : Ptr) (w : World) : List Ptr :=
  stored change.field ++ flagged self w change.pyref

instance : Decidable (Usable w self) :=
  inferInstanceAs (Decidable ((w.objs self).initialized = true ∧ (w.objs self).closing = false))

/-- The change of a `start`, if it gets through. -/
def started (E : Env) (w : World) (self : Ptr) (slot : Slot) (fn : UvFn)
    (args : Except PyErr Ptr) : Option Change :=
  match args with
  | .ok callback =>
    if Usable w self ∧ 0 ≤ E.status fn then some ⟨some (slot, some callback), some true⟩ else none
  | .error _ => none

/-- What a stop method changes, if it gets that far. -/
def stopped (E : Env) (w : World) (self : Ptr) (fn : UvFn) (slot : Option Slot) : Option Change :=
  if Usable w self ∧ 0 ≤ E.status fn then some ⟨slot.map fun slot => (slot, none), some false⟩
  else none

/-- The arguments of Timer.start. -/
def timer_args (E : Env) (args : Args (Ptr × ℚ × ℚ)) : Except PyErr Ptr := do
  let (callback, timeout, repeat_s) ← parse args
  a_callable E callback
  not_negative "a positive value or zero is required" timeout
  not_negative "a positive value or zero is required" repeat_s
  return callback

/-- The arguments of FSPoll.start. -/
def fspoll_args (E : Env) (args : Args (Ptr × ℚ)) : Except PyErr Ptr := do
  let (callback, interval) ← parse args
  a_callable E callback
  not_negative "a positive value or zero is required" interval
  return callback

/-- The arguments of the listen methods. -/
def listen_args (E : Env) (args : Args (Ptr × Int)) : Except PyErr Ptr := do
  let (callback, backlog) ← parse args
  if backlog < 0 then .error (.text .ValueError "backlog must be bigger than 0")
  a_callable E callback
  return callback

/-- What a listen changes, if it gets that far. -/
def listening (E : Env) (w : World) (self : Ptr) (args : Args (Ptr × Int)) : Option Change :=
  match listen_args E args with
  | .ok callback =>
    if Usable w self ∧ 0 ≤ E.status .uv_listen then
      some ⟨some (.on_new_connection_cb, some callback), none⟩
    else none
  | .error _ => none

/-- What setting __dict__ changes. -/
def new_dict (E : Env) : Option Ptr → Option Change
  | some val => if E.is_dict val then some ⟨some (.dict, some val), none⟩ else none
  | none => none

/-- What a call changes of its handle. None where it does not get through, and for the methods
that only add to what is held. -/
def Method.change (E : Env) (w : World) (self : Ptr) : Method → Option Change
  | .Timer_start args => started E w self .callback .uv_timer_start (timer_args E args)
  | .Prepare_start args => started E w self .callback .uv_prepare_start (start_args E args)
  | .Idle_start args => started E w self .callback .uv_idle_start (start_args E args)
  | .Check_start args => started E w self .callback .uv_check_start (start_args E args)
  | .Signal_start args => started E w self .callback .uv_signal_start (start_args E args)
  | .Poll_start args => started E w self .callback .uv_poll_start (start_args E args)
  | .FSEvent_start args => started E w self .callback .uv_fs_event_start (start_args E args)
  | .FSPoll_start args => started E w self .callback .uv_fs_poll_start (fspoll_args E args)
  | .Stream_start_read args => started E w self .on_read_cb .uv_read_start (start_args E args)
  | .UDP_start_recv args => started E w self .on_read_cb .uv_udp_recv_start (start_args E args)
  | .SignalChecker_start =>
    if Usable w self ∧ 0 ≤ E.status .uv_poll_start then some ⟨none, some true⟩ else none
  | .Timer_stop => stopped E w self .uv_timer_stop none
  | .Prepare_stop => stopped E w self .uv_prepare_stop (some .callback)
  | .Idle_stop => stopped E w self .uv_idle_stop (some .callback)
  | .Check_stop => stopped E w self .uv_check_stop (some .callback)
  | .Signal_stop => stopped E w self .uv_signal_stop none
  | .SignalChecker_stop => stopped E w self .uv_poll_stop none
  | .Poll_stop => stopped E w self .uv_poll_stop (some .callback)
  | .FSEvent_stop => stopped E w self .uv_fs_event_stop (some .callback)
  | .FSPoll_stop => stopped E w self .uv_fs_poll_stop (some .callback)
  | .Stream_stop_read => stopped E w self .uv_read_stop (some .on_read_cb)
  | .UDP_stop_recv => stopped E w self .uv_udp_recv_stop (some .on_read_cb)
  | .TCP_listen args => listening E w self args
  | .Pipe_listen args => listening E w self args
  | .Handle_set_dict val => new_dict E val
  | _ => none

/-! ## The places of the references -/

/-- The fields of all objects, and their flags, which stand for a reference to the object itself. -/
def World.place (w : World) : Ptr × Option Slot → Option Ptr
  | (p, some slot) => (w.sides p).slot slot
  | (p, none) => if (w.sides p).pyref then some p else none

/-- The references to `q` are at least those of the fields. -/
def World.Covered (w : World) (q : Ptr) : Prop := Covers w.place q (w.refs q)

theorem place_congr (h : t.sides = s.sides) : t.place = s.place := by
  funext x
  obtain ⟨p, slot⟩ := x
  cases slot <;> unfold World.place <;> rw [h]

theorem set_slot_place (slot : Slot) (value : Option Ptr) (w : World) :
    (w.set_slot self slot value).place = Function.update w.place (self, some slot) value := by
  funext x
  obtain ⟨p, field⟩ := x
  unfold World.place World.set_slot
  by_cases hp : p = self
  · subst hp
    cases field with
    | none => simp
    | some slot' =>
      by_cases hslot : slot' = slot
      · subst hslot
        simp
      · simp [hslot]
  · cases field <;> simp [hp]

theorem set_pyref_place (pyref : Bool) (w : World) :
    (w.set_pyref self pyref).place =
      Function.update w.place (self, none) (if pyref then some self else none) := by
  funext x
  obtain ⟨p, field⟩ := x
  unfold World.place World.set_pyref
  by_cases hp : p = self
  · subst hp
    cases field <;> simp
  · cases field <;> simp [hp]

theorem put_covered (slot : Slot) (value : Option Ptr) (h : w.Covered q) :
    (w.put self slot value).Covered q := by
  have hupdate := h.update (self, some slot) value
  rw [← set_slot_place] at hupdate
  exact hupdate

theorem take_covered (l : List Ptr) (h : w.Covered q) : (w.take l).Covered q :=
  Covers.mono h (by change w.refs q ≤ w.refs q + l.count q; omega)

theorem set_flag_covered (pyref : Option Bool) (h : w.Covered q) :
    (set_flag self pyref w).Covered q := by
  cases pyref with
  | none => exact h
  | some b =>
    have hupdate := h.update (self, none) (if b then some self else none)
    rw [← set_pyref_place] at hupdate
    have hflag : w.place (self, none) = if (w.sides self).pyref then some self else none := rfl
    rw [hflag] at hupdate
    cases b with
    | true =>
      unfold set_flag
      dsimp only
      split
      · exact h
      · rename_i hpyref
        rw [if_neg hpyref] at hupdate
        refine hupdate.mono ?_
        change w.refs q + [self].count q - (0 : Nat) ≤ w.refs q + [self].count q
        omega
    | false =>
      unfold set_flag
      dsimp only
      split
      · rename_i hpyref
        rw [if_pos hpyref] at hupdate
        refine hupdate.mono ?_
        change w.refs q + (0 : Nat) - [self].count q ≤ w.refs q - [self].count q
        omega
      · exact h

theorem apply_covered (change : Change) (h : w.Covered q) : (change.apply self w).Covered q := by
  apply set_flag_covered
  unfold store
  split
  · exact put_covered _ _ h
  · exact h

theorem store_refs (field : Option (Slot × Option Ptr)) (self : Ptr) (w : World) (q : Ptr) :
    (store self field w).refs q =
      w.refs q + (stored field).count q - (replaced self w field).count q := by
  cases field with
  | none =>
    change w.refs q = w.refs q + (0 : Nat) - (0 : Nat)
    omega
  | some f => rfl

theorem set_flag_refs (pyref : Option Bool) (self : Ptr) (w : World) (q : Ptr) :
    (set_flag self pyref w).refs q =
      w.refs q + (flagged self w pyref).count q - (unflagged self w pyref).count q := by
  cases pyref with
  | none =>
    change w.refs q = w.refs q + (0 : Nat) - (0 : Nat)
    omega
  | some b =>
    cases b <;> unfold set_flag flagged unflagged <;> dsimp only <;> split
    · change w.refs q - [self].count q = w.refs q + (0 : Nat) - [self].count q
      omega
    · change w.refs q = w.refs q + (0 : Nat) - (0 : Nat)
      omega
    · change w.refs q = w.refs q + (0 : Nat) - (0 : Nat)
      omega
    · change w.refs q + [self].count q = w.refs q + [self].count q - (0 : Nat)
      omega

theorem store_pyref (field : Option (Slot × Option Ptr)) (self : Ptr) (w : World) :
    ((store self field w).sides self).pyref = (w.sides self).pyref := by
  cases field with
  | none => rfl
  | some f => simp [store, World.put, World.set_slot, World.take, World.drop]

theorem apply_refs (change : Change) (self : Ptr) (w : World) (q : Ptr) :
    (change.apply self w).refs q =
      w.refs q + (change.taken self w).count q - (change.given self w).count q := by
  have hstore := store_refs change.field self w q
  have hflag := set_flag_refs change.pyref self (store self change.field w) q
  have hflagged : flagged self (store self change.field w) = flagged self w := by
    unfold flagged
    rw [store_pyref]
  have hunflagged : unflagged self (store self change.field w) = unflagged self w := by
    unfold unflagged
    rw [store_pyref]
  rw [hflagged, hunflagged] at hflag
  unfold Change.apply Change.taken Change.given
  rw [List.count_append, List.count_append]
  omega

/-! ## What a call leaves -/

/-- The world that a method leaves when it returns or raises. -/
def left {α : Type} : EStateM.Result Stop World α → Option World
  | .ok _ t => some t
  | .error (.raised _) t => some t
  | .error .crash _ => none

/-- No reference to `q` is lost, those of the fields stay counted, and of the objects other than
`new` no field changes but the callback of a close. -/
structure Saves (q new : Ptr) (s t : World) : Prop where
  refs : s.refs q ≤ t.refs q
  covered : s.Covered q → t.Covered q
  kept : ∀ p slot, p ≠ new → slot ≠ .on_close_cb → (t.sides p).slot slot = (s.sides p).slot slot

/-- The references to `q` and the fields are as the change says, or at least as they were. -/
def Follows (q new self : Ptr) (w : World) (r : EStateM.Result Stop World Unit) :
    Option Change → Prop
  | some change => ∀ t, left r = some t →
    t.sides = (change.apply self w).sides ∧ t.refs q = (change.apply self w).refs q
  | none => ∀ t, left r = some t → Saves q new w t

theorem Saves.refl : Saves q new s s := ⟨Int.le_refl _, fun h => h, fun _ _ _ _ => rfl⟩

theorem Saves.trans (h : Saves q new s t) (h' : Saves q new t u) : Saves q new s u where
  refs := h.refs.trans h'.refs
  covered hs := h'.covered (h.covered hs)
  kept p slot hp hslot := (h'.kept p slot hp hslot).trans (h.kept p slot hp hslot)

theorem Gains.saves (h : Gains q s t) : Saves q new s t := by
  refine ⟨h.2, fun hs => ?_, fun p slot _ _ => by rw [h.1]⟩
  unfold World.Covered
  rw [place_congr h.1]
  exact hs.mono h.2

/-- A program that saves the references wherever it returns or raises. -/
def Secure (q new : Ptr) (x : C α) : Prop :=
  Ends (fun _ => True) (fun s _ t => Saves q new s t) (fun s e t => e = .crash ∨ Saves q new s t) x

theorem Secure.bind {x : C α} {f : α → C β} (hx : Secure q new x) (hf : ∀ a, Secure q new (f a)) :
    Secure q new (x >>= f) := by
  apply Ends.bind hx hf
  · intro _ _ _ _ _
    trivial
  · intro s a t b u _ hst htu
    exact hst.trans htu
  · intro _ _ _ _ h
    exact h
  · intro s a t e u _ hst htu
    rcases htu with hcrash | htu
    · exact .inl hcrash
    · exact .inr (hst.trans htu)

theorem Owes.saves {x : C α} (h : Owes q (0 ≤ ·) 0 (Gains q) x) : Secure q new x := by
  apply Ends.mono h (fun _ hs => hs) (fun _ _ _ _ hst => hst.saves)
  intro s e t _ hend
  rcases hend with hcrash | ⟨hsides, hrefs⟩
  · exact .inl hcrash
  · have hle : 0 ≤ t.refs q - s.refs q + 0 := hrefs
    have hgains : Gains q s t := ⟨hsides, by omega⟩
    exact .inr hgains.saves

theorem Secure.follows {x : C Unit} (h : Secure q new x) (self : Ptr) (w : World) :
    Follows q new self w (x w) none := by
  intro t ht
  cases hx : x w with
  | ok a u =>
    rw [hx] at ht
    cases ht
    exact h.ok trivial hx
  | error e u =>
    rw [hx] at ht
    rcases h.error trivial hx with hcrash | hsaves
    · rw [hcrash] at ht
      cases ht
    · cases e with
      | crash => cases ht
      | raised e =>
        cases ht
        exact hsaves

theorem guards_cases (w : World) (self : Ptr) :
    Usable w self ∨ ∃ e t, handle_guards self w = .error e t := by
  cases hinit : (w.objs self).initialized with
  | false => exact .inr ⟨_, _, guards_uninitialized hinit⟩
  | true =>
    cases hclosing : (w.objs self).closing with
    | true => exact .inr ⟨_, _, guards_closed hinit hclosing⟩
    | false => exact .inl ⟨hinit, hclosing⟩

theorem uv_usable (h : Usable w self) (fn : UvFn) :
    uv E fn [self] w = .ok (E.status fn) (w.log ⟨fn, [self]⟩) := by
  have huse : w.use [self] = w := use_of_AllInit (by simpa [AllInit] using h.1)
  unfold uv
  rw [if_neg (by simp [(w.objs self).concrete h.1]), huse]

/-- The guards, a call of libuv and the test of its status, with what follows when all is well. -/
def guarded_call (E : Env) (self : Ptr) (fn : UvFn) (exc : Exc) (rest : C Unit) : C Unit := do
  handle_guards self
  let err ← uv E fn [self]
  raise_if_negative self exc err
  rest

variable {fn : UvFn} {exc : Exc} {rest : C Unit}

theorem guarded_call_ok (h : Usable w self ∧ 0 ≤ E.status fn) :
    guarded_call E self fn exc rest w = rest (w.log ⟨fn, [self]⟩) := by
  obtain ⟨husable, hstatus⟩ := h
  unfold guarded_call
  rw [bind_of_ok (guards_usable husable), bind_of_ok (uv_usable husable fn)]
  unfold raise_if_negative
  rw [if_neg (by omega)]
  rfl

theorem guarded_call_refused (h : ¬(Usable w self ∧ 0 ≤ E.status fn)) :
    ∃ e t, guarded_call E self fn exc rest w = .error e t := by
  unfold guarded_call
  rcases guards_cases w self with husable | ⟨e, t, hguards⟩
  · have hneg : E.status fn < 0 := by
      by_contra hstatus
      exact h ⟨husable, by omega⟩
    rw [bind_of_ok (guards_usable husable), bind_of_ok (uv_usable husable fn)]
    unfold raise_if_negative
    rw [if_pos hneg]
    rcases uv_error_cases self (E.status fn) exc (w.log ⟨fn, [self]⟩) with ⟨u, hu⟩ | ⟨t, u, hu⟩
    · exact ⟨_, u, bind_of_error (bind_of_error hu)⟩
    · exact ⟨_, u, bind_of_error (bind_of_ok hu)⟩
  · exact ⟨e, t, bind_of_error hguards⟩

theorem set_flag_log (pyref : Option Bool) (c : UvCall) :
    set_flag self pyref (w.log c) = (set_flag self pyref w).log c := by
  cases pyref with
  | none => rfl
  | some b =>
    unfold set_flag
    by_cases hpyref : (w.sides self).pyref = true
    · have hlog : ((w.log c).sides self).pyref = true := hpyref
      rw [if_pos hpyref, if_pos hpyref, if_pos hlog, if_pos hlog]
      cases b <;> rfl
    · have hlog : ¬((w.log c).sides self).pyref = true := hpyref
      rw [if_neg hpyref, if_neg hpyref, if_neg hlog, if_neg hlog]
      cases b <;> rfl

theorem apply_log (change : Change) (c : UvCall) :
    change.apply self (w.log c) = (change.apply self w).log c := by
  have hstore : store self change.field (w.log c) = (store self change.field w).log c := by
    cases change.field <;> rfl
  unfold Change.apply
  rw [hstore, set_flag_log]

/-- A call that ends in an error has changed nothing. -/
theorem follows_refused {x : C Unit} (h : Owes q (0 ≤ ·) 0 good x) (self : Ptr)
    (herror : ∃ e t, x w = .error e t) : Follows q new self w (x w) none := by
  obtain ⟨e, t, hx⟩ := herror
  intro u hu
  rw [hx] at hu
  rcases h.error trivial hx with hcrash | ⟨hsides, hrefs⟩
  · rw [hcrash] at hu
    cases hu
  · cases e with
    | crash => cases hu
    | raised e =>
      cases hu
      have hle : 0 ≤ t.refs q - w.refs q + 0 := hrefs
      have hgains : Gains q w t := ⟨hsides, by omega⟩
      exact hgains.saves

theorem owes_guarded_call (hbad : bad 0) (hrest : Owes q bad 0 (fun _ _ => True) rest) :
    Owes q bad 0 (fun _ _ => True) (guarded_call E self fn exc rest) := by
  apply (owes_guards hbad).quiet
  intro _
  apply owes_uv.quiet
  intro err
  apply (owes_raise_if_negative hbad).quiet
  intro _
  exact hrest

theorem follows_guarded_call {change : Change}
    (hrest : ∀ v, rest v = .ok () (change.apply self v)) :
    Follows q new self w (guarded_call E self fn exc rest w)
      (if Usable w self ∧ 0 ≤ E.status fn then some change else none) := by
  by_cases h : Usable w self ∧ 0 ≤ E.status fn
  · rw [if_pos h, guarded_call_ok h, hrest]
    intro t ht
    cases ht
    rw [apply_log]
    exact ⟨rfl, rfl⟩
  · rw [if_neg h]
    refine follows_refused (owes_guarded_call rfl.le ?_) self (guarded_call_refused h)
    intro s _
    rw [hrest]
    trivial

theorem follows_start {slot : Slot} {args : Except PyErr Ptr} :
    Follows q new self w (func_start E self slot fn exc args w)
      (started E w self slot fn args) := by
  cases args with
  | ok callback =>
    have hrun : func_start E self slot fn exc (.ok callback) =
        guarded_call E self fn exc (do
          modify (World.put self slot (some callback))
          PYUV_HANDLE_INCREF self) := rfl
    rw [hrun]
    exact follows_guarded_call fun _ => rfl
  | error e =>
    have hrun : func_start E self slot fn exc (.error e) = (do
        handle_guards self
        raise e) := rfl
    rw [hrun]
    have howes : Owes q (0 ≤ ·) 0 (Gains q) (do
        handle_guards self
        raise e : C Unit) := (owes_guards rfl.le).after fun _ => owes_raise rfl.le
    exact howes.saves.follows self w

theorem follows_stop {slot : Option Slot} :
    Follows q new self w (func_stop E self fn exc slot w) (stopped E w self fn slot) := by
  have hrun : func_stop E self fn exc slot = guarded_call E self fn exc (do
      clear self slot
      PYUV_HANDLE_DECREF self) := rfl
  rw [hrun]
  apply follows_guarded_call
  intro v
  cases slot <;> rfl

theorem follows_listen {exc : ExcType} {args : Args (Ptr × Int)} :
    Follows q new self w (func_listen E self exc args w) (listening E w self args) := by
  have hrun : func_listen E self exc args = (do
      handle_guards self
      let callback ← check (listen_args E args)
      let err ← uv E .uv_listen [self]
      raise_if_negative self (.type exc) err
      modify (World.put self .on_new_connection_cb (some callback))) := rfl
  rw [hrun]
  unfold listening
  cases hargs : listen_args E args with
  | ok callback => exact follows_guarded_call fun _ => rfl
  | error e =>
    have howes : Owes q (0 ≤ ·) 0 (Gains q) (do
        handle_guards self
        raise e : C Unit) := (owes_guards rfl.le).after fun _ => owes_raise rfl.le
    exact howes.saves.follows self w

theorem follows_dict {val : Option Ptr} :
    Follows q new self w (Handle_dict_set E self val w) (new_dict E val) := by
  have hraise : ∀ e, Owes q (0 ≤ ·) 0 (Gains q) (raise e : C Unit) := fun _ => owes_raise rfl.le
  cases val with
  | none => exact (hraise _).saves.follows self w
  | some val =>
    unfold Handle_dict_set new_dict
    dsimp only
    cases E.is_dict val with
    | false => exact (hraise _).saves.follows self w
    | true =>
      intro t ht
      cases ht
      exact ⟨rfl, rfl⟩

/-! ## Closing and spawning -/

theorem secure_modify {f : World → World} (h : ∀ v, Saves q new v (f v)) :
    Secure q new (modify f : C Unit) := Ends.modify fun v _ => h v

theorem take_saves (l : List Ptr) : Saves q new w (w.take l) where
  refs := by
    change w.refs q ≤ w.refs q + l.count q
    omega
  covered := take_covered l
  kept _ _ _ _ := rfl

/-- The sides and the references are the same. -/
theorem saves_of_eq (hsides : t.sides = s.sides) (hrefs : t.refs = s.refs) : Saves q new s t :=
  Gains.saves ⟨hsides, by rw [hrefs]⟩

/-- A field of the new object that has no value can be set, and another object's reference
dropped. -/
theorem put_saves {slot : Slot} {value : Option Ptr} (hold : (w.sides new).slot slot = none) :
    Saves q new w (w.put new slot value) where
  refs := by
    rw [World.put_refs, hold]
    change w.refs q ≤ w.refs q + value.toList.count q - (0 : Nat)
    omega
  covered := put_covered slot value
  kept p _ hp _ := by rw [World.put_sides_of_ne hp]

theorem drop_saves {p : Ptr} (hne : q ≠ p) : Saves q new w (w.drop [p]) := by
  have hcount : [p].count q = 0 := List.count_eq_zero.mpr (by simpa using hne)
  have hrefs : (w.drop [p]).refs q = w.refs q - ([p].count q : Nat) := rfl
  rw [hcount] at hrefs
  exact Gains.saves ⟨rfl, by omega⟩

theorem secure_uv_close : Secure q new (uv_close E self) :=
  (owes_call.gains (Int.le_refl 0)).saves.bind fun _ => secure_modify fun _ => saves_of_eq rfl rfl

/-- The old value of `on_close_cb` is not given back. -/
theorem secure_Handle_func_close {args : Args Ptr} :
    Secure q new (Handle_func_close E self args) := by
  apply ((owes_guards (Int.le_refl 0)).gains (Int.le_refl 0)).saves.bind
  intro _
  apply ((owes_check (Int.le_refl 0)).gains (Int.le_refl 0)).saves.bind
  intro callback
  have hstored : ∀ v : World, Saves q new v
      ((v.take [callback]).set_slot self .on_close_cb (some callback)) := by
    intro v
    have htaken : v.refs q ≤ v.refs q + [callback].count q := by omega
    refine ⟨htaken, fun hv => ?_, ?_⟩
    · have hupdate := hv.update (self, some .on_close_cb) (some callback)
      rw [← set_slot_place] at hupdate
      refine hupdate.mono ?_
      change v.refs q + [callback].count q - _ ≤ v.refs q + [callback].count q
      omega
    · intro p slot _ hslot
      by_cases hp : p = self
      · subst hp
        simp [World.set_slot, World.take, hslot]
      · simp [World.set_slot, World.take, hp]
  change Secure q new
    ((modify fun v => (v.take [callback]).set_slot self .on_close_cb (some callback) :
    C Unit) >>= fun _ => Py_INCREF self >>= fun _ => uv_close E self)
  apply (secure_modify hstored).bind
  intro _
  apply (secure_modify fun v => take_saves [self]).bind
  intro _
  exact secure_uv_close

theorem secure_Process_func_close {args : Args Ptr} :
    Secure q new (Process_func_close E self args) := by
  apply (owes_get.gains (Int.le_refl 0)).saves.bind
  intro w
  apply ((owes_check (Int.le_refl 0)).gains (Int.le_refl 0)).saves.bind
  intro _
  exact secure_Handle_func_close

variable {a : SpawnArgs}

theorem tp_new_saves (hq : q ≠ new) : Saves q new w (Process_tp_new new w) := by
  have hrefs : (Process_tp_new new w).refs q = w.refs q := Function.update_of_ne hq _ _
  refine ⟨hrefs.ge, fun hw => ?_, fun p slot hp _ => ?_⟩
  · have hplace : ∀ x, (Process_tp_new new w).place x = some q → w.place x = some q := by
      rintro ⟨p, field⟩ hx
      by_cases hp : p = new
      · subst hp
        cases field <;> simp [World.place, Process_tp_new] at hx
      · cases field <;> simpa [World.place, Process_tp_new, hp] using hx
    unfold World.Covered
    rw [hrefs]
    exact hw.of_imp hplace
  · simp [Process_tp_new, hp]

theorem new_slot (slot : Slot) : ((Process_tp_new E.fresh w).sides E.fresh).slot slot = none := by
  simp [Process_tp_new]

theorem made_process_saves (hq : q ≠ E.fresh) : Saves q E.fresh w (made_process E a w) :=
  (tp_new_saves hq).trans (put_saves (new_slot .loop))

theorem made_slot {slot : Slot} (hslot : slot ≠ .loop) :
    ((made_process E a w).sides E.fresh).slot slot = none := by
  simp [made_process, World.put, World.set_slot, World.take, World.drop, Process_tp_new, hslot]

/-- A process that was made and is not started gives its loop back. -/
theorem unmade_saves (hq : q ≠ E.fresh) :
    Saves q E.fresh w (((made_process E a w).drop [E.fresh]).put E.fresh .loop none) where
  refs := (apart_unmade.refs q hq).ge
  covered hw := by
    have hdropped : Saves q E.fresh (made_process E a w) ((made_process E a w).drop [E.fresh]) :=
      drop_saves hq
    exact put_covered _ _ (hdropped.covered ((made_process_saves hq).covered hw))
  kept p slot hp _ := by rw [apart_unmade.sides p hp]

/-- The new object stays in the loop until it is closed. -/
theorem zombie_saves {e : PyErr} (hself : (w.objs self).initialized = true)
    (hclosing : (w.objs self).closing = false)
    (h : left ((Handle_tp_dealloc E self >>= fun _ => (raise e : C Unit)) w) = some t) :
    Saves q new w t := by
  have hrun : Handle_tp_dealloc E self w = (uv_close E self >>= fun _ => Py_INCREF self) w := by
    change (if (w.objs self).initialized ∧ !(w.objs self).closing then _ else _ : C Unit) w = _
    rw [hself, hclosing]
    rfl
  have hsecure : Secure q new (uv_close E self >>= fun _ => Py_INCREF self) :=
    secure_uv_close.bind fun _ => secure_modify fun _ => take_saves _
  have hraise : Owes q (0 ≤ ·) 0 (Gains q) (raise e : C Unit) := owes_raise (Int.le_refl 0)
  rw [bind_congr_at hrun] at h
  exact (hsecure.bind fun _ => hraise.saves).follows self w t h

theorem spawned_saves {err : Int} (hq : q ≠ new) (hobj : w.objs new = started_process)
    (hexit : (w.sides new).slot .on_exit_cb = none) (hstdio : (w.sides new).slot .stdio = none)
    (h : left (spawned E new a err w) = some t) : Saves q new w t := by
  unfold spawned at h
  split at h
  · have hdropped : (w.drop [new]).objs new = started_process := hobj
    have hzombie : Saves q new (w.drop [new]) t :=
      zombie_saves (by rw [hdropped]; rfl) (by rw [hdropped]; rfl) h
    exact (drop_saves hq).trans hzombie
  · cases h
    apply (put_saves hexit).trans
    refine Saves.trans (put_saves ?_) (take_saves _)
    simpa [World.put, World.set_slot, World.take, World.drop] using hstdio

theorem spawn_process_saves {streams : List Ptr} (hq : q ≠ new)
    (hexit : (w.sides new).slot .on_exit_cb = none) (hstdio : (w.sides new).slot .stdio = none)
    (h : left (spawn_process E new a streams w) = some t) : Saves q new w t := by
  let v := set_obj new started_process w
  have hrun : spawn_process E new a streams w =
      (uv E .uv_spawn (new :: streams) >>= fun err => spawned E new a err) v := rfl
  rw [hrun] at h
  cases huv : uv E .uv_spawn (new :: streams) v with
  | error e u =>
    rw [bind_of_error huv] at h
    unfold uv at huv
    split at huv
    · cases huv
      cases h
    · cases huv
  | ok err u =>
    rw [bind_of_ok huv] at h
    unfold uv at huv
    split at huv
    · cases huv
    · cases huv
      let asked := (v.use (new :: streams)).log ⟨.uv_spawn, new :: streams⟩
      have hobj : asked.objs new = started_process := Function.update_self _ _ _
      have hasked : Saves q new w asked := saves_of_eq rfl rfl
      exact hasked.trans (spawned_saves hq hobj hexit hstdio h)

theorem follows_spawn {args : Args SpawnArgs} (hq : q ≠ E.fresh) (self : Ptr) :
    Follows q E.fresh self w (Process_func_spawn E args w) none := by
  intro t h
  cases args with
  | error e =>
    cases h
    exact .refl
  | ok a =>
    by_cases hreaches : a.reaches E
    · obtain ⟨streams, -, hrun⟩ := spawn_started hreaches w
      rw [hrun] at h
      exact (made_process_saves hq).trans (spawn_process_saves hq (made_slot (by decide))
        (made_slot (by decide)) h)
    · obtain ⟨e, u, hrun, -, hworld⟩ := spawn_refused_world hreaches w
      rw [hrun] at h
      cases h
      rcases hworld with rfl | rfl
      · exact .refl
      · exact unmade_saves hq

/-- Every call leaves the references to an object that was there before as its change says. -/
theorem Method.follows (m : Method) (self : Ptr) (w : World) (hq : q ≠ E.fresh) :
    Follows q E.fresh self w (m.exec E self w) (m.change E w self) := by
  have hrefl : (0 : Int) ≤ 0 := Int.le_refl 0
  have hup : ∀ d d' : Int, d ≤ d' → 0 ≤ d → 0 ≤ d' := fun _ _ hle h => h.trans hle
  have hkept : ∀ {x : C Unit}, Owes q (0 ≤ ·) 0 (Has q 0) x → Follows q E.fresh self w (x w) none :=
    fun h => (h.gains hrefl).saves.follows self w
  have hgained : ∀ {x : C Unit}, Owes q (0 ≤ ·) 0 (Gains q) x →
    Follows q E.fresh self w (x w) none :=
    fun h => h.saves.follows self w
  cases m with
  | Handle_close args => exact secure_Handle_func_close.follows self w
  | Process_close args => exact secure_Process_func_close.follows self w
  | Process_spawn args => exact follows_spawn hq self
  | Handle_set_dict val => exact follows_dict
  | Handle_set_ref val =>
    apply hkept
    exact (owes_check hrefl).has_after fun ref => owes_ite owes_call owes_call
  | SignalChecker_start => exact follows_guarded_call fun _ => rfl
  | Timer_start _ | Prepare_start _ | Idle_start _ | Check_start _ | Signal_start _
  | Poll_start _ | FSEvent_start _ | FSPoll_start _ | Stream_start_read _ | UDP_start_recv _ =>
    exact follows_start
  | Timer_stop | Prepare_stop | Idle_stop | Check_stop | Signal_stop | SignalChecker_stop
  | Poll_stop | FSEvent_stop | FSPoll_stop | Stream_stop_read | UDP_stop_recv =>
    exact follows_stop
  | TCP_listen _ | Pipe_listen _ => exact follows_listen
  | Stream_shutdown args => exact hgained (owes_Stream_func_shutdown hrefl)
  | Stream_write args => exact hgained (owes_Stream_func_write hrefl)
  | UDP_send args => exact hgained (owes_UDP_func_send hrefl)
  | TCP_connect args => exact hgained (owes_TCP_func_connect hrefl)
  | Pipe_connect args => exact hgained (owes_Pipe_func_connect hrefl (.inl hup))
  | Pipe_write args => exact hgained (owes_Pipe_func_write hrefl)
  | Stream_try_write _ | UDP_try_send _ => exact hgained (owes_func_try hrefl)
  | Condition_wait _ | Condition_timedwait _ => exact hgained (owes_func_cond_wait hrefl)
  | Pipe_bind args => exact hkept (owes_Pipe_func_bind hrefl)
  | TCP_accept args => exact hkept (owes_TCP_func_accept hrefl)
  | Pipe_accept args => exact hkept (owes_Pipe_func_accept hrefl)
  | Timer_set_repeat value => exact hkept (owes_Timer_repeat_set hrefl)
  | TTY_reset_mode | Process_disable_stdio_inheritance => exact hkept owes_call
  | Pipe_pending_instances _ | Pipe_pending_handle_type | UDP_open _ =>
    exact hkept (owes_func_void hrefl)
  | TCP_set_sndbuf _ | TCP_set_rcvbuf _ | Pipe_set_sndbuf _ | Pipe_set_rcvbuf _
  | UDP_set_sndbuf _ | UDP_set_rcvbuf _ => exact hkept (owes_attr_set hrefl)
  | Barrier_wait | Mutex_lock | Mutex_unlock | Mutex_trylock | RWLock_rdlock | RWLock_rdunlock
  | RWLock_tryrdlock | RWLock_wrlock | RWLock_wrunlock | RWLock_trywrlock | Condition_signal
  | Condition_broadcast | Semaphore_post | Semaphore_wait | Semaphore_trywait =>
    exact hkept (owes_func_sync hrefl)
  | _ => exact hkept (owes_func_call hrefl)

end pyuv.methods
