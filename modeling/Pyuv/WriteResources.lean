-- What a write or send takes and gives back. Every failing exit and the
-- single-buffer path are balanced. The sequence path never gives back the list
-- that it took from PySequence_Fast.
import Mathlib.Tactic.Abel
import Pyuv.WriteBuffers

set_option linter.style.nameCheck false

namespace pyuv.write_buffers

open ledgers ledgers.Ledger byte_order addr_tuples

/-! ## What a request holds while it is under way -/

/-- On top of `L`, what a submitted request has taken, the handle apart. -/
def Ctx.held (ctx : Ctx) (L : Ledger Res) : Ledger Res :=
  acquireAll (opt ctx.send_handle .send_handle)
    (acquire .callback
      (acquireAll (viewsBelow ctx.view_count) (acquireAll (opt ctx.heap .views) (acquire .ctx L))))

theorem lent_le_held (ctx : Ctx) (L : Ledger Res) : ↑ctx.lent ≤ (ctx.held L).free := by
  apply Multiset.le_iff_exists_add.mpr
  let others : List Res := opt ctx.send_handle .send_handle ++ .callback :: opt ctx.heap .views
  refine ⟨(others : Multiset Res) + L.free, ?_⟩
  simp only [others, Ctx.held, Ctx.lent, free_acquireAll, acquire, ← Multiset.coe_add,
    ← Multiset.cons_coe, ← Multiset.singleton_add]
  abel

/-- The same ledger, in the order in which the completion callback gives back. -/
theorem self_held_eq (ctx : Ctx) (L : Ledger Res) :
    acquire .self (ctx.held L) =
      acquire .callback (acquireAll (opt ctx.send_handle .send_handle)
        (acquireAll (viewsBelow ctx.view_count) (acquireAll (opt ctx.heap .views)
          (acquire .ctx (acquire .self L))))) := by
  apply Ledger.ext
  · simp only [Ctx.held, free_acquireAll, acquire, ← Multiset.singleton_add]
    abel
  · simp [Ctx.held, lent_acquireAll, acquire]

@[simp]
theorem call_callback.spec (callback returned : Bool) (L : Ledger Res) :
    call_callback callback returned L = some L := by
  unfold call_callback
  split <;> simp

/-- Once libuv has called back, only what was there before is left. -/
theorem complete.spec (ctx : Ctx) (status : Int) (returned : Bool) (L : Ledger Res) :
    ∃ M, lend ctx.lent (ctx.held L) = some M ∧
      complete ctx status returned (acquire .self M) = some
        (if ctx.callback then some (if status < 0 then some status else none) else none, L) := by
  obtain ⟨M, hM, hback⟩ := reclaim_lend [.self] (lent_le_held ctx L)
  refine ⟨M, hM, ?_⟩
  simp only [acquireAll_cons, acquireAll_nil] at hback
  unfold complete
  rw [hback]
  simp only [Option.bind_eq_bind, Option.bind_some, call_callback.spec]
  rw [self_held_eq]
  simp

/-! ## The two paths -/

/-- The items of a sequence all export a buffer, or there is a first that does not. -/
theorem items_cases (items : List Item) :
    (∃ views : List Buffer, items = views.map Except.ok) ∨
      ∃ (views : List Buffer) (e : PyErr) (rest : List Item),
        items = views.map Except.ok ++ Except.error e :: rest := by
  induction items with
  | nil => exact Or.inl ⟨[], rfl⟩
  | cons item items ih =>
    cases item with
    | error e => exact Or.inr ⟨[], e, items, rfl⟩
    | ok view =>
      rcases ih with ⟨views, rfl⟩ | ⟨views, e, rest, rfl⟩
      · exact Or.inl ⟨view :: views, rfl⟩
      · exact Or.inr ⟨view :: views, e, rest, rfl⟩

theorem fill_views.spec_ok (views : List Buffer) (i : Nat) (L : Ledger Res) :
    fill_views i (views.map Except.ok) L =
      (.ok (views.map buf_of_view),
        acquireAll ((List.range' i views.length).map .view) L) := by
  induction views generalizing i L with
  | nil => rfl
  | cons view views ih =>
    simp only [List.map_cons, fill_views, ih, List.length_cons, List.range'_succ, Except.map]
    rw [acquireAll_acquire, acquireAll_cons]

theorem fill_views.spec_error (views : List Buffer) (e : PyErr) (rest : List Item) (i : Nat)
    (L : Ledger Res) :
    fill_views i (views.map Except.ok ++ Except.error e :: rest) L =
      (.error (i + views.length, e),
        acquireAll ((List.range' i views.length).map .view) L) := by
  induction views generalizing i L with
  | nil => rfl
  | cons view views ih =>
    simp only [List.map_cons, List.cons_append, fill_views, ih, List.length_cons,
      List.range'_succ, Except.map]
    rw [acquireAll_acquire, acquireAll_cons, Nat.add_right_comm, Nat.add_assoc]

theorem sequence_error.spec (heap : Bool) (i : Nat) (L : Ledger Res) :
    sequence_error heap i (acquireAll (viewsBelow i) (acquireAll (opt heap .views)
      (acquire .ctx (acquire .data_fast L)))) = some L := by
  simp [sequence_error]

/-- A sequence that the call takes over: not empty, not too long, with memory for
the request and its views, every item a buffer, and no error from libuv. -/
def SequenceAccepted (env : Env) (items : List Item) : Prop :=
  0 < items.length ∧ items.length ≤ INT_MAX ∧ env.ctx_alloc ∧
    (items.length ≤ ARRAY_SIZE_viewsml ∨ env.views_alloc) ∧
      ∃ views : List Buffer, items = views.map Except.ok ∧ 0 ≤ env.uv (views.map buf_of_view)

/-- A call ends with the ledger of before, or with a request whose completion
leads to the ledger `after`. -/
def EndsIn (run : Option (Outcome × Ledger Res))
    (cb : Ctx → Int → Bool → Ledger Res → Option (Option (Option Int) × Ledger Res))
    (before after : Ledger Res) : Prop :=
  ∃ out M, run = some (out, M) ∧ match out with
    | .raised _ => M = before
    | .refused _ _ => M = before
    | .submitted ctx _ => ∀ status returned, ∃ called, cb ctx status returned M =
      some (called, after)

/-- What holds of a call whose completion must lead back to where it began. -/
def Balanced (run : Option (Outcome × Ledger Res))
    (cb : Ctx → Int → Bool → Ledger Res → Option (Option (Option Int) × Ledger Res))
    (L : Ledger Res) : Prop := EndsIn run cb L L

section

variable {run : Option (Outcome × Ledger Res)} {L after : Ledger Res}
  {cb : Ctx → Int → Bool → Ledger Res → Option (Option (Option Int) × Ledger Res)}

theorem EndsIn.raised {e : PyErr} (h : run = some (.raised e, L)) : EndsIn run cb L after :=
  ⟨_, _, h, rfl⟩

theorem EndsIn.refused {e : PyErr} (bufs : List uv_buf_t) (h : run = some (.refused e bufs, L)) :
    EndsIn run cb L after :=
  ⟨_, _, h, rfl⟩

/-- A submitted request that found the ledger `K` is completed into `K`, and
into no other ledger. -/
theorem EndsIn.submitted_iff {ctx : Ctx} (bufs : List uv_buf_t) {K : Ledger Res}
    (hcb : cb ctx = complete ctx)
    (h : run = (lend ctx.lent (ctx.held K)).bind
      (fun M => some (.submitted ctx bufs, acquire .self M))) :
    EndsIn run cb L after ↔ after = K := by
  obtain ⟨M, hM, -⟩ := complete.spec ctx 0 true K
  have hrun : run = some (.submitted ctx bufs, acquire .self M) := by rw [h, hM]; rfl
  have hcomplete : ∀ status returned, ∃ called,
      complete ctx status returned (acquire .self M) = some (called, K) := by
    intro status returned
    obtain ⟨N, hN, hends⟩ := complete.spec ctx status returned K
    obtain rfl : M = N := Option.some.inj (hM.symm.trans hN)
    exact ⟨_, hends⟩
  constructor
  · rintro ⟨out, N, hout, hends⟩
    rw [hrun] at hout
    obtain ⟨rfl, rfl⟩ := Prod.mk.inj (Option.some.inj hout)
    obtain ⟨called, hcalled⟩ := hends 0 true
    obtain ⟨called', hcalled'⟩ := hcomplete 0 true
    rw [hcb, hcalled'] at hcalled
    exact (Prod.mk.inj (Option.some.inj hcalled)).2.symm
  · rintro rfl
    exact ⟨_, _, hrun, fun status returned => hcb ▸ hcomplete status returned⟩

end

/-- The callback was taken before the handle that goes along, and is given back first. -/
theorem release_callback (send_handle : Bool) (L : Ledger Res) :
    release .callback (acquireAll (opt send_handle .send_handle) (acquire .callback L)) =
      some (acquireAll (opt send_handle .send_handle) L) := by
  rw [acquireAll_acquire]
  exact release_acquire _ _

section

variable (exc : ExcType) (send_handle callback : Bool) (env : Env) (L : Ledger Res)
  {cb : Ctx → Int → Bool → Ledger Res → Option (Option (Option Int) × Ledger Res)}

theorem submit_bytes.spec (hcb : ∀ ctx, ctx.send_handle = send_handle → cb ctx = complete ctx)
    (data : Item) : Balanced (submit_bytes exc send_handle callback env data L) cb L := by
  unfold submit_bytes
  cases hctx : env.ctx_alloc with
  | false => exact EndsIn.raised rfl
  | true =>
    cases data with
    | error e => exact EndsIn.raised (e := e) (by simp)
    | ok view =>
      by_cases herr : env.uv [buf_of_bytes view] < 0
      · exact EndsIn.refused (e := .uv exc (env.uv [buf_of_bytes view]))
          [buf_of_bytes view] (by simp [herr, release_callback])
      · let ctx : Ctx := { view_count := 1, heap := false, send_handle, callback }
        apply (EndsIn.submitted_iff [buf_of_bytes view] (hcb ctx rfl) ?_).mpr rfl
        have hheld : ctx.held L = acquireAll (opt send_handle .send_handle)
            (acquire .callback (acquire (.view 0) (acquire .ctx L))) := rfl
        rw [hheld]
        simp [herr, ctx]

theorem heap_with_memory {env : Env} {n : Nat}
    (h : n ≤ ARRAY_SIZE_viewsml ∨ env.views_alloc = true) :
    (decide (n > ARRAY_SIZE_viewsml) && !env.views_alloc) = false := by
  rcases h with h | h
  · simp [Nat.not_lt.mpr h]
  · simp [h]

/-- The sequence path with all its items in order: what is left to decide is libuv's answer. -/
theorem submit_sequence_of_views (views : List Buffer) (hpos : 0 < views.length)
    (hmax : views.length ≤ INT_MAX) (hctx : env.ctx_alloc = true)
    (hviews : views.length ≤ ARRAY_SIZE_viewsml ∨ env.views_alloc = true) :
    let bufs := views.map buf_of_view
    let ctx : Ctx := { view_count := views.length,
                       heap := decide (views.length > ARRAY_SIZE_viewsml), send_handle, callback }
    submit_sequence exc send_handle callback env (.ok (views.map Except.ok)) L =
      if env.uv bufs < 0 then some (.refused (.uv exc (env.uv bufs)) bufs, L)
      else (lend ctx.lent (ctx.held (acquire .data_fast L))).bind
        (fun M => some (.submitted ctx bufs, acquire .self M)) := by
  intro bufs ctx
  have hrange : (List.range' 0 views.length).map Res.view = viewsBelow views.length := by
    rw [viewsBelow, List.range_eq_range']
  unfold submit_sequence
  simp only [List.length_map, gt_iff_lt, Nat.not_lt.mpr hmax, if_false, Nat.ne_of_gt hpos, hctx,
    Bool.not_true, Bool.false_eq_true, heap_with_memory hviews, fill_views.spec_ok, hrange]
  by_cases herr : env.uv bufs < 0
  · simp only [bufs] at herr
    simp [herr, release_callback, sequence_error.spec, bufs]
  · simp only [bufs] at herr
    simp [herr, bufs, ctx, Ctx.held]

/-- Item number `views.length` is the first that exports no buffer. -/
theorem submit_sequence_of_bad_item (views : List Buffer) (e : PyErr) (rest : List Item)
    (hmax : (views.map Except.ok ++ Except.error e :: rest).length ≤ INT_MAX)
    (hctx : env.ctx_alloc = true)
    (hviews : (views.map Except.ok ++ Except.error e :: rest).length ≤ ARRAY_SIZE_viewsml ∨
      env.views_alloc = true) :
    submit_sequence exc send_handle callback env
      (.ok (views.map Except.ok ++ Except.error e :: rest)) L = some (.raised e, L) := by
  have hrange : (List.range' 0 views.length).map Res.view = viewsBelow views.length := by
    rw [viewsBelow, List.range_eq_range']
  have hpos : (views.map Except.ok ++ Except.error e :: rest).length ≠ 0 := by simp
  simp only [submit_sequence, gt_iff_lt, Nat.not_lt.mpr hmax, if_neg hpos, hctx, Bool.not_true,
    Bool.false_eq_true, if_false, heap_with_memory hviews, fill_views.spec_error, hrange,
    Nat.zero_add, sequence_error.spec]
  rfl

/-- Every failing exit of the sequence path leaves the ledger as it was. -/
theorem submit_sequence.spec_failed (fast : Except PyErr (List Item)) (after : Ledger Res)
    (h : ¬ ∃ items, fast = .ok items ∧ SequenceAccepted env items) :
    EndsIn (submit_sequence exc send_handle callback env fast L) cb L after := by
  cases fast with
  | error e => exact EndsIn.raised rfl
  | ok items =>
    by_cases hmax : items.length > INT_MAX
    · exact EndsIn.raised (e := .text .ValueError "iterable is too long")
        (by simp [submit_sequence, hmax])
    by_cases hzero : items.length = 0
    · exact EndsIn.raised (e := .text .ValueError "iterable is empty")
        (by simp [submit_sequence, hzero, INT_MAX])
    cases hctx : env.ctx_alloc with
    | false =>
      exact EndsIn.raised (e := .cpython .MemoryError)
        (by simp [submit_sequence, hmax, hzero, hctx])
    | true =>
      by_cases hviews : items.length ≤ ARRAY_SIZE_viewsml ∨ env.views_alloc = true
      · rcases items_cases items with ⟨views, rfl⟩ | ⟨views, e, rest, rfl⟩
        · rw [List.length_map] at hmax hzero hviews
          rw [submit_sequence_of_views exc send_handle callback env L views
            (Nat.pos_of_ne_zero hzero) (Nat.not_lt.mp hmax) hctx hviews]
          split
          · exact EndsIn.refused _ rfl
          · rename_i herr
            refine absurd ⟨_, rfl, ?_⟩ h
            rw [SequenceAccepted, List.length_map]
            exact ⟨Nat.pos_of_ne_zero hzero, Nat.not_lt.mp hmax, hctx, hviews, views, rfl,
              Int.not_lt.mp herr⟩
        · exact EndsIn.raised
            (submit_sequence_of_bad_item exc send_handle callback env L views e rest
            (Nat.not_lt.mp hmax) hctx hviews)
      · obtain ⟨hlong, hnone⟩ := not_or.mp hviews
        exact EndsIn.raised (e := .cpython .MemoryError)
          (by simp [submit_sequence, hmax, hzero, hctx, hnone, Nat.lt_of_not_le hlong])

theorem submit_sequence.spec_accepted {items : List Item} (after : Ledger Res)
    (hcb : ∀ ctx, ctx.send_handle = send_handle → cb ctx = complete ctx)
    (h : SequenceAccepted env items) :
    EndsIn (submit_sequence exc send_handle callback env (.ok items) L) cb L after ↔
      after = acquire .data_fast L := by
  obtain ⟨hpos, hmax, hctx, hviews, views, rfl, herr⟩ := h
  rw [List.length_map] at hpos hmax hviews
  apply EndsIn.submitted_iff _ (hcb _ ?_)
  · rw [submit_sequence_of_views exc send_handle callback env L views hpos hmax hctx hviews,
      if_neg (Int.not_lt.mpr herr)]
  · rfl

end

/-! ## The laws of the resources -/

/-- The callback of a method completes the requests that the method submits. -/
theorem Method.cb_eq_complete {m : Method} {a : Args} {send_handle : Bool}
    (h : m.checks a = .ok send_handle) (ctx : Ctx) (hctx : ctx.send_handle = send_handle) :
    m.cb ctx = complete ctx := by
  cases m with
  | Stream_write type => rfl
  | Pipe_write handle => rfl
  | UDP_send o inet addr =>
    have hnone : send_handle = false := by
      simp only [Method.checks, bind, Except.bind, pure, Except.pure] at h
      split at h
      · cases h
      split at h
      · cases h
      split at h
      · cases h
      · exact (Except.ok.inj h).symm
    subst hnone
    obtain ⟨n, heap, sh, callback⟩ := ctx
    subst hctx
    rfl

/-- A write or send gives back all that it took, on its failing exits at once and
otherwise with its completion, if and only if it is not a sequence that libuv
accepts: then the list of PySequence_Fast is kept for good. -/
theorem a_call_is_balanced_iff (m : Method) (env : Env) (a : Args) (L : Ledger Res) :
    Balanced (m.run env a L) m.cb L ↔
      ¬ ∃ send_handle items, m.checks a = .ok send_handle ∧ a.data = .sequence (.ok items) ∧
        SequenceAccepted env items := by
  rw [Method.run.spec]
  cases hchecks : m.checks a with
  | error e => exact iff_of_true (EndsIn.raised rfl) (by simp)
  | ok send_handle =>
    have hcb := Method.cb_eq_complete hchecks
    cases hdata : a.data with
    | exporter view => exact iff_of_true (submit_bytes.spec _ _ _ env L hcb view) (by simp)
    | unicode => exact iff_of_true (EndsIn.raised rfl) (by simp)
    | other => exact iff_of_true (EndsIn.raised rfl) (by simp)
    | sequence fast =>
      by_cases haccepted : ∃ items, fast = .ok items ∧ SequenceAccepted env items
      · obtain ⟨items, rfl, h⟩ := haccepted
        have hkept := (submit_sequence.spec_accepted m.exc _ (decide (a.callback = .callable)) env L
          L hcb h).not.mpr (acquire_ne .data_fast L).symm
        exact iff_of_false hkept (not_not.mpr ⟨send_handle, items, rfl, rfl, h⟩)
      · refine iff_of_true (submit_sequence.spec_failed _ _ _ env L fast L haccepted) ?_
        rintro ⟨_, items, _, hitems, h⟩
        exact haccepted ⟨items, Data.sequence.inj hitems, h⟩

/-- write([b'']) on an open TCP handle, with no callback and no error anywhere. -/
theorem a_written_list_is_never_released :
    ¬ Balanced
      ((Method.Stream_write .TCP).run { ctx_alloc := true, views_alloc := true, uv := fun _ => 0 }
        { self := { initialized := true, closing := false }, arity_ok := true,
          data := .sequence (.ok [.ok { bytes := [], fits := by decide }]), callback := .Py_None }
        { free := 0, lent := 0 })
      (Method.Stream_write .TCP).cb { free := 0, lent := 0 } := by
  intro h
  have hone : SequenceAccepted { ctx_alloc := true, views_alloc := true, uv := fun _ => 0 }
      [.ok { bytes := [], fits := by decide }] :=
    ⟨by decide, by decide, rfl, Or.inr rfl, [{ bytes := [], fits := by decide }], rfl, by decide⟩
  have hends := (submit_sequence.spec_accepted .TCPError false false _ { free := 0, lent := 0 }
    { free := 0, lent := 0 } (fun _ _ => rfl) hone).mp h
  exact acquire_ne _ _ hends.symm

end pyuv.write_buffers
