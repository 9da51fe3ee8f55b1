-- Which bytes a write or send puts before libuv. A sequence is passed whole,
-- while a single buffer goes through an unsigned int and loses what is past 2^32.
import Pyuv.WriteResources

set_option linter.style.nameCheck false

namespace pyuv.write_buffers

open ledgers ledgers.Ledger byte_order addr_tuples

/-! ## The laws of the bytes -/

/-- The bytes that a call puts before libuv, if it gets that far. -/
def Outcome.bytes : Outcome → Option (List UInt8)
  | .raised _ => none
  | .refused _ bufs => some (bytesOf bufs)
  | .submitted _ bufs => some (bytesOf bufs)

/-- What libuv is asked to write. -/
def submittedBytes (run : Option (Outcome × Ledger Res)) : Option (List UInt8) :=
  run.bind (fun p => p.1.bytes)

/-- The buffer that was tried. -/
def TryOutcome.bytes : TryOutcome → Option (List UInt8)
  | .raised _ => none
  | .tried buf _ => some (bytesOf [buf])

/-- What libuv is asked to write at once. -/
def triedBytes (run : Option (TryOutcome × Ledger Res)) : Option (List UInt8) :=
  run.bind (fun p => p.1.bytes)

/-- The single-buffer paths pass the length modulo 2^32. -/
theorem buf_of_bytes.spec (b : Buffer) :
    bytesOf [buf_of_bytes b] = b.bytes.take (b.bytes.length % 2 ^ 32) := by
  simp [bytesOf, uv_buf_t.bytes, buf_of_bytes, uv_buf_init]

theorem take_mod_eq_self_iff (bs : List UInt8) :
    bs.take (bs.length % 2 ^ 32) = bs ↔ bs.length < 2 ^ 32 := by
  rw [List.take_eq_self_iff]
  constructor
  · intro h
    exact lt_of_le_of_lt h (Nat.mod_lt _ (by decide))
  · intro h
    rw [Nat.mod_eq_of_lt h]

/-- The sequence paths pass every length as it is. -/
theorem bytesOf_views (views : List Buffer) :
    bytesOf (views.map buf_of_view) = views.flatMap Buffer.bytes := by
  have hone : ∀ b : Buffer, (buf_of_view b).bytes = b.bytes := by
    intro b
    have hlt : b.bytes.length < 2 ^ 64 := lt_trans b.fits (by decide)
    simp only [buf_of_view, uv_buf_t.bytes, BitVec.toNat_ofNat]
    rw [Nat.mod_eq_of_lt hlt, List.take_length]
  simp [bytesOf, List.flatMap_map, hone]

theorem submit_bytes.bytes (exc : ExcType) (send_handle callback : Bool) (env : Env) (b : Buffer)
    (L : Ledger Res) (hctx : env.ctx_alloc = true) :
    submittedBytes (submit_bytes exc send_handle callback env (.ok b) L) =
      some (b.bytes.take (b.bytes.length % 2 ^ 32)) := by
  rw [← buf_of_bytes.spec]
  by_cases herr : env.uv [buf_of_bytes b] < 0
  · simp [submit_bytes, hctx, herr, release_callback, submittedBytes, Outcome.bytes]
  · let ctx : Ctx := { view_count := 1, heap := false, send_handle, callback }
    obtain ⟨M, hM, -⟩ := complete.spec ctx 0 true L
    have hheld : ctx.held L = acquireAll (opt send_handle .send_handle)
        (acquire .callback (acquire (.view 0) (acquire .ctx L))) := rfl
    rw [hheld] at hM
    simp [submit_bytes, hctx, herr, submittedBytes, ctx] at hM ⊢
    simp [hM, Outcome.bytes]

theorem submit_sequence.bytes (exc : ExcType) (send_handle callback : Bool) {env : Env}
    (views : List Buffer) (L : Ledger Res) (hctx : env.ctx_alloc = true)
    (hviews : env.views_alloc = true) :
    submittedBytes (submit_sequence exc send_handle callback env (.ok (views.map .ok)) L) =
      if 0 < views.length ∧ views.length ≤ INT_MAX then some (views.flatMap Buffer.bytes)
      else none := by
  let ctx : Ctx := { view_count := views.length,
                     heap := decide (views.length > ARRAY_SIZE_viewsml), send_handle, callback }
  by_cases hmax : views.length ≤ INT_MAX
  · by_cases hpos : 0 < views.length
    · rw [if_pos ⟨hpos, hmax⟩, submit_sequence_of_views exc send_handle callback env L views hpos
        hmax hctx (Or.inr hviews), ← bytesOf_views]
      obtain ⟨M, hM, -⟩ := complete.spec ctx 0 true (acquire .data_fast L)
      split
      · rfl
      · rw [hM]
        rfl
    · have hnil : views = [] := List.eq_nil_of_length_eq_zero (Nat.eq_zero_of_not_pos hpos)
      subst hnil
      simp [submit_sequence, submittedBytes, Outcome.bytes, INT_MAX]
  · rw [if_neg (fun h => hmax h.2)]
    simp [submit_sequence, Nat.lt_of_not_le hmax, submittedBytes, Outcome.bytes]

theorem try_buffer.bytes (exc : ExcType) (uv : List uv_buf_t → Int) (b : Buffer) (L : Ledger Res) :
    triedBytes (try_buffer exc uv b (acquire (.view 0) L)) =
      some (b.bytes.take (b.bytes.length % 2 ^ 32)) := by
  rw [← buf_of_bytes.spec]
  by_cases herr : uv [buf_of_bytes b] < 0 <;>
    simp [try_buffer, herr, triedBytes, TryOutcome.bytes]

/-- What the checks of a call have passed, the checks of its try pass too. -/
theorem Method.try_run.spec {m : Method} {a : Args} {send_handle : Bool}
    (h : m.checks a = .ok send_handle) (uv : List uv_buf_t → Int) (b : Buffer) (L : Ledger Res) :
    m.try_run uv a.self (.ok b) L = try_buffer m.exc uv b (acquire (.view 0) L) := by
  simp only [Method.checks, bind, Except.bind] at h
  split at h
  · cases h
  rename_i hself
  split at h
  · cases h
  cases m with
  | Stream_write type => simp [Method.try_run, Stream_func_try_write, hself, bind, Except.bind,
      Method.exc]
  | Pipe_write handle => simp [Method.try_run, Stream_func_try_write, hself, bind, Except.bind,
      Method.exc, stream_exc]
  | UDP_send o inet addr =>
    simp only at h
    split at h
    · cases h
    · rename_i hparse
      simp [Method.try_run, UDP_func_try_send, hself, bind, Except.bind, Method.exc, hparse]

/-- Where a call reaches libuv, a single buffer is submitted whole if and only if
it is shorter than 2^32 bytes, and a sequence always is, in its order. A sequence
that is empty or too long is refused and not submitted. -/
theorem a_call_submits_its_data_iff (m : Method) (env : Env) (a : Args) (L : Ledger Res)
    {send_handle : Bool} (hchecks : m.checks a = .ok send_handle) (hctx : env.ctx_alloc = true)
    (hviews : env.views_alloc = true) :
    let write := fun d => submittedBytes (m.run env { a with data := d } L)
    let buffer := fun b : Buffer => Data.exporter (.ok b)
    let sequence := fun bs : List Buffer => Data.sequence (.ok (bs.map .ok))
    let tried := fun uv b => triedBytes (m.try_run uv a.self (.ok b) L)
    (∀ b : Buffer, write (buffer b) = some b.bytes ↔ b.bytes.length < 2 ^ 32) ∧
    (∀ b : Buffer, write (buffer b) = write (sequence [b]) ↔ b.bytes.length < 2 ^ 32) ∧
    (∀ bs : List Buffer, write (sequence bs) = some (bs.flatMap Buffer.bytes) ↔
      0 < bs.length ∧ bs.length ≤ INT_MAX) ∧
    (∀ (bs : List Buffer) (joined : Buffer), joined.bytes = bs.flatMap Buffer.bytes →
      (write (sequence bs) = write (buffer joined) ↔
        (0 < bs.length ∧ bs.length ≤ INT_MAX) ∧ joined.bytes.length < 2 ^ 32)) ∧
    (∀ uv (b : Buffer), tried uv b = some b.bytes ↔ b.bytes.length < 2 ^ 32) := by
  intro write buffer sequence tried
  have hbuffer : ∀ b, write (buffer b) = some (b.bytes.take (b.bytes.length % 2 ^ 32)) := by
    intro b
    have hrun := Method.run.spec m env { a with data := buffer b } L
    rw [show m.checks { a with data := buffer b } = .ok send_handle from hchecks] at hrun
    exact (congrArg submittedBytes hrun).trans (submit_bytes.bytes _ _ _ _ b L hctx)
  have hsequence : ∀ bs, write (sequence bs) =
      if 0 < bs.length ∧ bs.length ≤ INT_MAX then some (bs.flatMap Buffer.bytes) else none := by
    intro bs
    have hrun := Method.run.spec m env { a with data := sequence bs } L
    rw [show m.checks { a with data := sequence bs } = .ok send_handle from hchecks] at hrun
    exact (congrArg submittedBytes hrun).trans (submit_sequence.bytes _ _ _ bs L hctx hviews)
  refine ⟨fun b => ?_, fun b => ?_, fun bs => ?_, fun bs joined hjoined => ?_, fun uv b => ?_⟩
  · rw [hbuffer, Option.some_inj, take_mod_eq_self_iff]
  · rw [hbuffer, hsequence, if_pos ⟨by simp, by simp [INT_MAX]⟩, Option.some_inj]
    simp only [List.flatMap_cons, List.flatMap_nil, List.append_nil]
    exact take_mod_eq_self_iff b.bytes
  · rw [hsequence]
    split <;> simp_all
  · rw [hbuffer, hsequence, ← hjoined]
    split
    · rename_i hlen
      rw [Option.some_inj, eq_comm, take_mod_eq_self_iff]
      exact (and_iff_right hlen).symm
    · rename_i hlen
      simp [hlen]
  · simp only [tried]
    rw [Method.try_run.spec hchecks, try_buffer.bytes, Option.some_inj, take_mod_eq_self_iff]

/-- An open TCP handle, no callback, and nothing that fails. -/
def openTcp : Args :=
  { self := { initialized := true, closing := false }, arity_ok := true, data := .unicode,
    callback := .Py_None }

/-- Memory for all, and libuv takes everything. -/
def allGood : Env := { ctx_alloc := true, views_alloc := true, uv := fun _ => 0 }

theorem a_short_buffer_is_submitted_whole :
    submittedBytes ((Method.Stream_write .TCP).run allGood
        { openTcp with data := .exporter (.ok { bytes := [1, 2, 3], fits := by decide }) }
        { free := 0, lent := 0 }) = some [1, 2, 3] :=
  ((a_call_submits_its_data_iff (.Stream_write .TCP) allGood openTcp { free := 0, lent := 0 }
    (rfl : (Method.Stream_write .TCP).checks openTcp = .ok false) rfl rfl).1
      { bytes := [1, 2, 3], fits := by decide }).mpr (by decide)

/-- 2^32 bytes: the length that libuv gets is 0. -/
def fourGiB : Buffer where
  bytes := List.replicate (2 ^ 32) 0
  fits := by
    rw [List.length_replicate]
    decide

theorem four_gib_are_not_submitted :
    submittedBytes ((Method.Stream_write .TCP).run allGood
        { openTcp with data := .exporter (.ok fourGiB) } { free := 0, lent := 0 }) = some [] ∧
      fourGiB.bytes ≠ [] := by
  have hlen : fourGiB.bytes.length = 2 ^ 32 := List.length_replicate
  constructor
  · have hbytes := submit_bytes.bytes .TCPError false false allGood fourGiB
      { free := 0, lent := 0 } rfl
    rw [hlen, Nat.mod_self, List.take_zero] at hbytes
    exact hbytes
  · intro hnil
    rw [hnil] at hlen
    cases hlen

end pyuv.write_buffers
