-- What is left of a call of dns.getnameinfo once it, or the callback of its request, has returned;
-- and the calls of both functions that leave nothing.
import Pyuv.DnsResources

set_option linter.style.nameCheck false

namespace pyuv.dns

open ends ledgers ledgers.Ledger addr_tuples byte_order

variable {L M : Ledger Res} {n users : Nat} {s : State} {completion : Run Unit}

/-! ## The callback of getnameinfo -/

/-- The call keeps a reference to the request that the user has not got. -/
theorem not_settled_kept {call : Run CallEnd} {ret : CallEnd} {t : State}
    (hm : call (State.initial L) = .ok ret t) (hret : ret ≠ .request) (ht : Has (owned L 1) 1 t) :
    ¬ Settled L (outcome call completion users L) := by
  have hrefs : ∀ u, u = (t, 0) → u.1.refs ≠ u.2 := by
    rintro u rfl
    dsimp only
    rw [ht.refs]
    decide
  have hout : outcome call completion users L = some (t, 0) := by
    unfold outcome
    rw [hm]
    cases ret with
    | request => exact absurd rfl hret
    | raised => rfl
    | value v => rfl
  rw [hout]
  rintro ⟨u, users', v, heq, hcount, -⟩
  have hpair := (Option.some.inj heq).symm
  exact hrefs (u, users') hpair hcount

/-- There are names to build, of UTF-8, and memory for them. -/
def Buildable (E : GniEnv) (names : List UInt8 × List UInt8) : Prop :=
  utf8.decode names.1 ≠ none ∧ utf8.decode names.2 ≠ none ∧ E.tuple_alloc = true

theorem build_names_spec (E : GniEnv) (names : List UInt8 × List UInt8) :
    (Buildable E names → ∃ v, build_names E names = .ok v) ∧
      (¬ Buildable E names → ∃ e, build_names E names = .error e) := by
  unfold Buildable build_names
  cases utf8.decode names.1 with
  | none => exact ⟨fun h => absurd rfl h.1, fun _ => ⟨_, rfl⟩⟩
  | some host =>
    cases utf8.decode names.2 with
    | none => exact ⟨fun h => absurd rfl h.2.1, fun _ => ⟨_, rfl⟩⟩
    | some service =>
      dsimp only
      by_cases halloc : E.tuple_alloc = true
      · rw [if_pos halloc]
        refine ⟨fun _ => ⟨_, rfl⟩, fun h => absurd ⟨?_, ?_, halloc⟩ h⟩
        · exact Option.some_ne_none host
        · exact Option.some_ne_none service
      · rw [if_neg halloc]
        exact ⟨fun h => absurd h.2.2 halloc, fun _ => ⟨_, rfl⟩⟩

/-- What the work of a request tells its callback. -/
def reported (E : GniEnv) : Except Errno (List UInt8 × List UInt8) :=
  if E.cancelled then .error canceled else E.answer

theorem getnameinfo_completion_eq (E : GniEnv) :
    getnameinfo_completion E = pyuv__getnameinfo_cb E (reported E) := by
  unfold getnameinfo_completion reported
  split <;> rfl

/-- The callback gives back the request, unless it passes a NULL to Py_DECREF. -/
theorem pyuv__getnameinfo_cb_spec (E : GniEnv) (answer : Except Errno (List UInt8 × List UInt8))
    (h : Has (owned L (n + 1)) (n + 1) s) :
    ((∀ names, answer = .ok names → Buildable E names) →
        ∃ t, pyuv__getnameinfo_cb E answer s = .ok () t ∧ Has (owned L n) n t) ∧
      ((∃ names, answer = .ok names ∧ ¬ Buildable E names) →
        pyuv__getnameinfo_cb E answer s = .error .crash s) := by
  have hdecref : ∀ c, ∃ t, (do
      modify fun s => { s with called := c }
      Py_DECREF : Run Unit) s = .ok () t ∧ Has (owned L n) n t := by
    intro c
    have hcalled : Has (owned L (n + 1)) (n + 1) { s with called := c } := ⟨h.ledger, h.refs⟩
    exact Py_DECREF_spec hcalled
  unfold pyuv__getnameinfo_cb
  cases answer with
  | error e =>
    refine ⟨fun _ => hdecref _, ?_⟩
    rintro ⟨names, heq, -⟩
    cases heq
  | ok names =>
    dsimp only
    refine ⟨?_, ?_⟩
    · intro hall
      obtain ⟨v, hv⟩ := (build_names_spec E names).1 (hall names rfl)
      rw [hv]
      exact hdecref _
    · rintro ⟨names', heq, hnot⟩
      cases heq
      obtain ⟨e, he⟩ := (build_names_spec E names).2 hnot
      rw [he]
      rfl

/-! ## The request of getnameinfo -/

variable {E : GniEnv} {async : Bool} (addr : sockaddr) (flags : List Int)

theorem submit_names_failed {e : Errno} (h : uv_getnameinfo E async = .error e) (L : Ledger Res) :
    ∃ t, submit_names E async addr flags (State.initial L) = .ok .raised t ∧ Has L 0 t := by
  let raised : State :=
    { State.initial L with
      ledger := owned L 1
      refs := 1
      req := true
      submitted := some (.getnameinfo addr flags)
      pending := some (.uv .UVError e.n) }
  obtain ⟨t, ht, hhas⟩ : ∃ t, Py_DECREF raised = .ok () t ∧ Has L 0 t := Py_DECREF_last ⟨rfl, rfl⟩
  refine ⟨t, ?_, hhas⟩
  have hrun : submit_names E async addr flags (State.initial L) =
      (xdecref_req >>= fun _ => (pure .raised : Run CallEnd)) raised := by
    unfold submit_names
    rw [h]
    rfl
  have hdrop : xdecref_req raised = .ok () t := ht
  rw [hrun, bind_of_ok hdrop]
  rfl

theorem submit_names_taken {names : List UInt8 × List UInt8}
    (h : uv_getnameinfo E async = .ok names) (L : Ledger Res) :
    ∃ t, submit_names E async addr flags (State.initial L) = finish_names E async names t ∧
      Has (owned L 1) 1 t := by
  let taken : State :=
    { State.initial L with
      ledger := owned L 1
      refs := 1
      req := true
      submitted := some (.getnameinfo addr flags) }
  refine ⟨taken, ?_, rfl, rfl⟩
  unfold submit_names
  rw [h]
  rfl

theorem submit_names_async (hrefused : E.refused = none) (L : Ledger Res) :
    ∃ t, submit_names E true addr flags (State.initial L) = .ok .request t ∧
      Has (owned L 1) 2 t := by
  have htaken : uv_getnameinfo E true = .ok ([], []) := by
    unfold uv_getnameinfo
    rw [hrefused]
    rfl
  obtain ⟨t, ht, hhas⟩ := submit_names_taken addr flags htaken L
  refine ⟨{ t with refs := t.refs + 1 }, ?_, hhas.ledger, ?_⟩
  · rw [ht]
    rfl
  · dsimp only
    rw [hhas.refs]

/-- A synchronous call that has an answer keeps its request. -/
theorem submit_names_kept {names : List UInt8 × List UInt8} (hrefused : E.refused = none)
    (hanswer : E.answer = .ok names) (L : Ledger Res) :
    ∃ ret t, submit_names E false addr flags (State.initial L) = .ok ret t ∧ ret ≠ .request ∧
      Has (owned L 1) 1 t := by
  have htaken : uv_getnameinfo E false = .ok names := by
    unfold uv_getnameinfo
    rw [hrefused]
    exact hanswer
  obtain ⟨t, ht, hhas⟩ := submit_names_taken addr flags htaken L
  rw [ht]
  unfold finish_names
  simp only [Bool.false_eq_true, if_false]
  cases build_names E names with
  | ok v => exact ⟨_, t, rfl, (fun heq => nomatch heq), hhas⟩
  | error e => exact ⟨_, _, rfl, (fun heq => nomatch heq), hhas.ledger, hhas.refs⟩

theorem submit_names_async_settled_iff (hrefused : E.refused = none) :
    Settled L (outcome (submit_names E true addr flags) (getnameinfo_completion E) users L) ↔
      ∀ names, reported E = .ok names → Buildable E names := by
  obtain ⟨t, ht, hhas⟩ := submit_names_async addr flags hrefused L
  by_cases hall : ∀ names, reported E = .ok names → Buildable E names
  · refine iff_of_true ?_ hall
    apply settled_request ht hhas
    intro s hs
    rw [getnameinfo_completion_eq]
    exact (pyuv__getnameinfo_cb_spec E (reported E) hs).1 hall
  · refine iff_of_false ?_ hall
    push Not at hall
    have hgiven : Has (owned L (users + 1)) (users + 1) { t with refs := t.refs - 1 + users } := by
      refine ⟨hhas.ledger, ?_⟩
      dsimp only
      rw [hhas.refs]
      omega
    have hcrash := (pyuv__getnameinfo_cb_spec E (reported E) hgiven).2 hall
    unfold outcome
    rw [ht]
    dsimp only
    rw [getnameinfo_completion_eq, hcrash]
    rintro ⟨_, _, _, heq, -⟩
    cases heq

theorem submit_names_settled_iff :
    Settled L (outcome (submit_names E async addr flags) (getnameinfo_completion E) users L) ↔
      (E.refused = none → if async = false then ∃ e, E.answer = .error e
        else ∀ names, reported E = .ok names → Buildable E names) := by
  cases hrefused : E.refused with
  | some e =>
    have hfailed : uv_getnameinfo E async = .error e := by
      unfold uv_getnameinfo
      rw [hrefused]
    obtain ⟨t, ht, hhas⟩ := submit_names_failed addr flags hfailed L
    apply iff_of_true
    · exact (settled_ok_iff ht (fun heq => nomatch heq) hhas).mpr rfl
    · intro heq
      cases heq
  | none =>
    cases async with
    | true =>
      rw [submit_names_async_settled_iff addr flags hrefused]
      simp
    | false =>
      cases hanswer : E.answer with
      | error e =>
        have hfailed : uv_getnameinfo E false = .error e := by
          unfold uv_getnameinfo
          rw [hrefused]
          exact hanswer
        obtain ⟨t, ht, hhas⟩ := submit_names_failed addr flags hfailed L
        apply iff_of_true
        · exact (settled_ok_iff ht (fun heq => nomatch heq) hhas).mpr rfl
        · intro _
          exact ⟨e, rfl⟩
      | ok names =>
        obtain ⟨ret, t, ht, hret, hhas⟩ :=
          submit_names_kept addr flags hrefused hanswer L
        apply iff_of_false (not_settled_kept ht hret hhas)
        intro h
        obtain ⟨e, he⟩ := h rfl
        cases he

/-- A synchronous call that libuv takes has no answer, and the answer to a request can be built. -/
def getnameinfo_settles (o : ByteOrder) (inet : Inet) (E : GniEnv) (args : GniArgs) : Prop :=
  ∀ flags ss, args.loop = true →
    integers.pass_all integers.Util_func_getnameinfo.positions args.hints = .ok flags →
    args.callback.getD .Py_None ≠ .other → pyuv_parse_addr_tuple o inet args.addr = .ok ss →
    E.request_alloc = true → E.refused = none →
    if args.callback.getD .Py_None = .Py_None then ∃ e, E.answer = .error e
    else E.cancelled = false → ∀ names, E.answer = .ok names → Buildable E names

theorem reported_buildable_iff :
    (∀ names, reported E = .ok names → Buildable E names) ↔
      (E.cancelled = false → ∀ names, E.answer = .ok names → Buildable E names) := by
  unfold reported
  cases E.cancelled with
  | true => simp
  | false => simp

theorem getnameinfo_settled_iff (o : ByteOrder) (inet : Inet) (E : GniEnv) (args : GniArgs)
    (users : Nat) (L : Ledger Res) :
    Settled L (outcome (Util_func_getnameinfo o inet E args) (getnameinfo_completion E) users L) ↔
      getnameinfo_settles o inet E args := by
  unfold Util_func_getnameinfo
  cases hloop : args.loop with
  | false =>
    apply iff_of_true (settled_raise_error _)
    intro _ _ h
    rw [hloop] at h
    cases h
  | true =>
    cases hflags : integers.pass_all integers.Util_func_getnameinfo.positions args.hints with
    | error e =>
      apply iff_of_true (settled_raise_error _)
      intro _ _ _ h
      rw [hflags] at h
      cases h
    | ok flags =>
      dsimp only
      by_cases hother : args.callback.getD .Py_None = .other
      · rw [if_pos hother]
        apply iff_of_true (settled_raise_error _)
        intro _ _ _ _ h
        exact absurd hother h
      · rw [if_neg hother]
        cases haddr : pyuv_parse_addr_tuple o inet args.addr with
        | error e =>
          apply iff_of_true (settled_raise_error _)
          intro _ _ _ _ _ h
          rw [haddr] at h
          cases h
        | ok ss =>
          dsimp only
          by_cases halloc : E.request_alloc = true
          · rw [if_pos halloc, submit_names_settled_iff, reported_buildable_iff]
            simp only [decide_eq_false_iff_not, ne_eq, not_not]
            constructor
            · intro h _ _ _ _ _ _ _ hrefused
              exact h hrefused
            · intro h hrefused
              exact h flags ss hloop hflags hother haddr halloc hrefused
          · rw [if_neg halloc]
            apply iff_of_true (settled_raise_error _)
            intro _ _ _ _ _ _ h
            exact absurd h halloc

/-! ## The calls of the module -/

/-- What is settled of every call of the two functions: of getaddrinfo, the calls whose service has
an encoding where the host has one and whose synchronous answer is empty; of getnameinfo, the
synchronous calls that fail and the requests that end with an error or with names that can be
built. -/
theorem dns_calls_settled_iff (o : ByteOrder) (inet : Inet) (users : Nat) (L : Ledger Res) :
    (∀ (E : GaiEnv) (args : GaiArgs),
      Settled L (outcome (Util_func_getaddrinfo o inet E args) (getaddrinfo_completion o inet E)
        users L) ↔ getaddrinfo_settles E args) ∧
    ∀ (E : GniEnv) (args : GniArgs),
      Settled L (outcome (Util_func_getnameinfo o inet E args) (getnameinfo_completion E) users L) ↔
        getnameinfo_settles o inet E args := by
  constructor
  · intro E args
    exact getaddrinfo_settled_iff o inet E args users L
  · intro E args
    exact getnameinfo_settled_iff o inet E args users L

/-- A codec that knows no more than ASCII. -/
def ascii_codec (text : List Char) : Except PyErr (List UInt8) :=
  if text.all (fun c => c.toNat < 128) then .ok (text.map fun c => UInt8.ofNat c.toNat)
  else .error (.cpython .ValueError)

/-- An answer of one address, 127.0.0.1 at port 80. -/
def localhost_env : GaiEnv where
  idna := ascii_codec
  ascii := ascii_codec
  request_alloc := true
  list_alloc := true
  item_alloc := 1
  refused := none
  answer := .ok [⟨2, 1, 6, none, some (.AF_INET ⟨0x5000, 0x0100007f⟩)⟩]
  cancelled := false

/-- getaddrinfo(loop, "localhost", service, callback=callback) -/
def localhost_args (service : PyArg) (callback : CallbackArg) : GaiArgs where
  loop := true
  host := .str "localhost".toList
  service := some service
  hints := [none, none, none, none]
  callback := some callback

/-- All goes well, and the system gives the host as a name. -/
def names_env (host : List UInt8) : GniEnv where
  request_alloc := true
  tuple_alloc := true
  refused := none
  answer := .ok (host, [104, 116, 116, 112])
  cancelled := false

/-- getnameinfo(loop, ("127.0.0.1", 80), callback=callback) -/
def names_args (callback : CallbackArg) : GniArgs where
  loop := true
  addr := .tuple [.str "127.0.0.1".toList, .int 80]
  hints := [none]
  callback := some callback

/-- The synchronous getaddrinfo(loop, "localhost", 80) keeps the list of libuv, and the synchronous
getnameinfo(loop, ("127.0.0.1", 80)) its request. getaddrinfo(loop, "localhost", "é", callback=f)
keeps the encoding of the host, and the callback of getnameinfo crashes on a name that is not
UTF-8. -/
theorem localhost_is_not_settled :
    ¬ Settled ⟨0, 0⟩ (outcome (Util_func_getaddrinfo .little plainInet localhost_env
        (localhost_args (.int 80) .Py_None))
      (getaddrinfo_completion .little plainInet localhost_env) 0 ⟨0, 0⟩) ∧
    ¬ Settled ⟨0, 0⟩ (outcome (Util_func_getnameinfo .little plainInet (names_env [97])
        (names_args .Py_None)) (getnameinfo_completion (names_env [97])) 0 ⟨0, 0⟩) ∧
    ¬ Settled ⟨0, 0⟩ (outcome (Util_func_getaddrinfo .little plainInet localhost_env
        (localhost_args (.str ['é']) .callable))
      (getaddrinfo_completion .little plainInet localhost_env) 1 ⟨0, 0⟩) ∧
    ¬ Settled ⟨0, 0⟩ (outcome (Util_func_getnameinfo .little plainInet (names_env [255])
        (names_args .callable)) (getnameinfo_completion (names_env [255])) 1 ⟨0, 0⟩) := by
  refine ⟨?_, ?_, ?_, ?_⟩
  · rw [getaddrinfo_settled_iff]
    intro h
    have hres := (h [0, 0, 0, 0] _ _ rfl rfl rfl (by decide)).2 _ _ _ rfl rfl rfl rfl rfl
    cases hres
  · rw [getnameinfo_settled_iff]
    intro h
    obtain ⟨e, he⟩ := h [0] _ rfl rfl (by decide) rfl rfl rfl
    cases he
  · rw [getaddrinfo_settled_iff]
    intro h
    have hencoded := (h [0, 0, 0, 0] _ _ rfl rfl rfl (by decide)).1 _ rfl
    cases hencoded
  · rw [getnameinfo_settled_iff]
    intro h
    have hbuildable := h [0] _ rfl rfl (by decide) rfl rfl rfl rfl _ rfl
    exact hbuildable.1 (by decide)

end pyuv.dns
