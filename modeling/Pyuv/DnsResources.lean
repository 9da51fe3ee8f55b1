-- What is left of a call of dns.getaddrinfo once it, or the callback of its request, has returned:
-- the addrinfo list, the request with its references, and the encodings.
import Pyuv.Dns

set_option linter.style.nameCheck false

namespace pyuv.dns

open ends ledgers ledgers.Ledger addr_tuples byte_order

/-! ## The contract -/

/-- A call begins with all its variables NULL. -/
def State.initial (L : Ledger Res) : State where
  ledger := L
  refs := 0
  idna := false
  ascii := false
  req := false
  pending := none
  submitted := none
  called := none

/-- The state when the call, or for a request its completion, has returned, and the number of
references to the request that are the user's. The call gives the user one of them, and there are
`users` at the completion. -/
def outcome (call : Run CallEnd) (completion : Run Unit) (users : Nat) (L : Ledger Res) :
    Option (State × Nat) :=
  match call (State.initial L) with
  | .ok .request s =>
    match completion { s with refs := s.refs - 1 + users } with
    | .ok _ t => some (t, users)
    | .error _ _ => none
  | .ok _ s => some (s, 0)
  | .error _ _ => none

/-- The user of a request drops `n` references to it. -/
def user_drops : Nat → Run Unit
  | 0 => pure ()
  | n + 1 => do
    Py_DECREF
    user_drops n

/-- Only the user's references are left, and with them goes all that the call has taken. -/
def Settled (L : Ledger Res) (out : Option (State × Nat)) : Prop :=
  ∃ t users u, out = some (t, users) ∧ t.refs = users ∧ user_drops users t = .ok () u ∧
    u.ledger = L

/-! ## Where a call is -/

/-- With the references of a request that is there. -/
def owned (L : Ledger Res) : Nat → Ledger Res
  | 0 => L
  | _ + 1 => (L.acquire .loop).acquire .callback

/-- The encodings that are held, on top of `L`. -/
def encodings (idna ascii : Bool) (L : Ledger Res) : Ledger Res :=
  let L := if ascii then L.acquire .ascii else L
  if idna then L.acquire .idna else L

/-- What a call holds before it gives back its encodings, with `req` for the variable of a
request. -/
structure Holds (M : Ledger Res) (idna ascii : Bool) (refs : Nat) (req : Bool) (s : State) :
    Prop where
  ledger : s.ledger = encodings idna ascii M
  idna : s.idna = idna
  ascii : s.ascii = ascii
  refs : s.refs = refs
  req : s.req = req

/-- What it holds without them. -/
structure Has (M : Ledger Res) (refs : Nat) (s : State) : Prop where
  ledger : s.ledger = M
  refs : s.refs = refs

variable {L M : Ledger Res} {i a b : Bool} {n : Nat} {s : State}

theorem Holds.with_pending {e : Option PyErr} (h : Holds M i a n b s) :
    Holds M i a n b { s with pending := e } := ⟨h.ledger, h.idna, h.ascii, h.refs, h.req⟩

theorem acquire_encodings (r : Res) (i a : Bool) (M : Ledger Res) :
    (encodings i a M).acquire r = encodings i a (M.acquire r) := by
  unfold encodings
  cases i <;> cases a
  · rfl
  · exact acquire_comm _ _ _
  · exact acquire_comm _ _ _
  · change acquire r (acquire .idna (acquire .ascii M)) =
      acquire .idna (acquire .ascii (acquire r M))
    rw [acquire_comm r, acquire_comm r]

/-- What is held may be dropped. -/
theorem drop_of_eq {r : Res} (h : s.ledger = M.acquire r) :
    drop r s = .ok () { s with ledger := M } := release_in_ok h

/-! ## What each part does -/

/-- The last reference frees the request. -/
theorem Py_DECREF_last (h : Has (owned L 1) 1 s) : ∃ t, Py_DECREF s = .ok () t ∧ Has L 0 t := by
  unfold Py_DECREF
  rw [h.refs]
  have hcallback : drop .callback { s with refs := 0 } =
      .ok () { s with refs := 0, ledger := L.acquire .loop } := drop_of_eq h.ledger
  refine ⟨{ s with refs := 0, ledger := L }, ?_, rfl, rfl⟩
  dsimp only
  rw [bind_of_ok hcallback, drop_of_eq rfl]

/-- A DECREF that leaves references frees nothing. -/
theorem Py_DECREF_spec (h : Has (owned L (n + 1)) (n + 1) s) :
    ∃ t, Py_DECREF s = .ok () t ∧ Has (owned L n) n t := by
  cases n with
  | zero => exact Py_DECREF_last h
  | succ n =>
    refine ⟨{ s with refs := n + 1 }, ?_, h.ledger, rfl⟩
    unfold Py_DECREF
    rw [h.refs]

/-- The request and its references go away with the user's. -/
theorem user_drops_spec (h : Has (owned L n) n s) :
    ∃ t, user_drops n s = .ok () t ∧ t.ledger = L := by
  induction n generalizing s with
  | zero => exact ⟨s, rfl, h.ledger⟩
  | succ n ih =>
    obtain ⟨t, ht, hhas⟩ := Py_DECREF_spec h
    obtain ⟨u, hu, hledger⟩ := ih hhas
    refine ⟨u, ?_, hledger⟩
    unfold user_drops
    rw [bind_of_ok ht, hu]

/-- The two encodings, where they were made. -/
theorem xdecref_spec (h : Holds M i a n b s) :
    ∃ t u, xdecref_idna s = .ok () t ∧ xdecref_ascii t = .ok () u ∧ Has M n u ∧ u.req = b := by
  have hidna : xdecref_idna s = if i then drop .idna s else .ok () s := by
    change (if s.idna then drop .idna else pure () : Run Unit) s = _
    rw [h.idna]
    cases i <;> rfl
  have hascii : ∀ t : State, t.ascii = a →
      xdecref_ascii t = if a then drop .ascii t else .ok () t := by
    intro t ht
    change (if t.ascii then drop .ascii else pure () : Run Unit) t = _
    rw [ht]
    cases a <;> rfl
  obtain ⟨t, ht, hledger, hrest⟩ : ∃ t, xdecref_idna s = .ok () t ∧
      t.ledger = encodings false a M ∧ t = { s with ledger := t.ledger } := by
    rw [hidna]
    cases i with
    | false => exact ⟨s, rfl, h.ledger, rfl⟩
    | true => exact ⟨_, drop_of_eq h.ledger, rfl, rfl⟩
  have htascii : t.ascii = a := by
    rw [hrest]
    exact h.ascii
  obtain ⟨u, hu, huledger, hurest⟩ : ∃ u, xdecref_ascii t = .ok () u ∧ u.ledger = M ∧
      u = { t with ledger := u.ledger } := by
    rw [hascii t htascii]
    cases a with
    | false => exact ⟨t, rfl, hledger, rfl⟩
    | true => exact ⟨_, drop_of_eq hledger, rfl, rfl⟩
  refine ⟨t, u, ht, hu, ⟨huledger, ?_⟩, ?_⟩
  · rw [hurest, hrest]
    exact h.refs
  · rw [hurest, hrest]
    exact h.req

/-- The error label gives back everything. -/
theorem error_label_spec (h : Holds (owned L b.toNat) i a b.toNat b s) :
    ∃ t, error_label .goto_error s = .ok .raised t ∧ Has L 0 t := by
  obtain ⟨t, u, ht, hu, hhas, hreq⟩ := xdecref_spec h
  obtain ⟨v, hv, hvhas⟩ : ∃ v, xdecref_req u = .ok () v ∧ Has L 0 v := by
    have hxdecref : xdecref_req u = if b then Py_DECREF u else .ok () u := by
      change (if u.req then Py_DECREF else pure () : Run Unit) u = _
      rw [hreq]
      cases b <;> rfl
    rw [hxdecref]
    cases b with
    | false => exact ⟨u, rfl, hhas⟩
    | true => exact Py_DECREF_last hhas
  refine ⟨v, ?_, hvhas⟩
  change (xdecref_idna >>= fun _ => xdecref_ascii >>= fun _ => xdecref_req >>= fun _ =>
    (pure .raised : Run CallEnd)) s = _
  rw [bind_of_ok ht, bind_of_ok hu, bind_of_ok hv]
  rfl

/-! ## Getting to libuv -/

/-- A host that cannot be encoded ends the call. -/
theorem take_idna_spec (c : CStr) (L : Ledger Res) :
    match c with
    | .got h i => ∃ t, take_idna c (State.initial L) = .ok h t ∧ Holds L i false 0 false t
    | .unencoded _ => ∃ t, take_idna c (State.initial L) = .error .return_null t ∧ Has L 0 t
    | .refused _ =>
      ∃ t, take_idna c (State.initial L) = .error .goto_error t ∧
      Holds L false false 0 false t := by
  cases c with
  | got h i => cases i <;> exact ⟨_, rfl, rfl, rfl, rfl, rfl, rfl⟩
  | unencoded e => exact ⟨_, rfl, rfl, rfl⟩
  | refused e => exact ⟨_, rfl, rfl, rfl, rfl, rfl, rfl⟩

/-- Without the encoding of a service the one of the host is not given back. -/
theorem take_ascii_spec (c : CStr) (h : Holds L i false 0 false s) :
    match c with
    | .got v a => ∃ t, take_ascii c s = .ok v t ∧ Holds L i a 0 false t
    | .unencoded _ =>
      ∃ t, take_ascii c s = .error .return_null t ∧ Has (encodings i false L) 0 t
    | .refused _ => ∃ t, take_ascii c s = .error .goto_error t ∧ Holds L i false 0 false t := by
  cases c with
  | got v a =>
    cases a with
    | false => exact ⟨s, rfl, h⟩
    | true =>
      refine ⟨_, rfl, ?_, h.idna, rfl, h.refs, h.req⟩
      change s.ledger.acquire .ascii = _
      rw [h.ledger]
      cases i with
      | false => rfl
      | true => exact acquire_comm _ _ _
  | unencoded e => exact ⟨_, rfl, h.ledger, h.refs⟩
  | refused e => exact ⟨_, rfl, h.ledger, h.idna, h.ascii, h.refs, h.req⟩

/-- A request, if there is memory for it. -/
theorem new_request_spec (E : GaiEnv) (h : Holds L i a 0 false s) :
    (E.request_alloc = true → ∃ t, new_request E s = .ok () t ∧ Holds (owned L 1) i a 1 true t) ∧
      (E.request_alloc = false →
        ∃ t, new_request E s = .error .goto_error t ∧ Holds L i a 0 false t) := by
  unfold new_request
  constructor
  · intro halloc
    rw [if_pos halloc]
    refine ⟨_, rfl, ?_, h.idna, h.ascii, rfl, rfl⟩
    change (s.ledger.acquire .loop).acquire .callback = _
    rw [h.ledger, acquire_encodings, acquire_encodings]
    rfl
  · intro halloc
    rw [if_neg (by rw [halloc]; decide)]
    exact ⟨_, rfl, h.ledger, h.idna, h.ascii, h.refs, h.req⟩

/-! ## The request -/

/-- The ledger with the list that is not empty. -/
def listed (res : List addrinfo) (M : Ledger Res) : Ledger Res :=
  if res = [] then M else M.acquire .addrinfo

/-- The list of addresses is held from then on. -/
theorem uv__getaddrinfo_work_spec (E : GaiEnv) (s : State) :
    match E.answer with
    | .error e => uv__getaddrinfo_work E s = .ok (e.n, []) s
    | .ok res => uv__getaddrinfo_work E s = .ok (0, res)
      { s with ledger := listed res s.ledger } := by
  unfold uv__getaddrinfo_work
  cases E.answer with
  | error e => rfl
  | ok res => cases res <;> rfl

/-- The callback frees the list, and drops the reference of the call. -/
theorem pyuv__getaddrinfo_cb_spec (o : ByteOrder) (inet : Inet) (E : GaiEnv) (status : Int)
    {res : List addrinfo} (h : Has (listed res (owned L (n + 1))) (n + 1) s) :
    ∃ t, pyuv__getaddrinfo_cb o inet E status res s = .ok () t ∧ Has (owned L n) n t := by
  let called : State :=
    { s with called := some (pyuv__getaddrinfo_process_result o inet E status res) }
  obtain ⟨t, ht, hhas⟩ : ∃ t, uv_freeaddrinfo res called = .ok () t ∧
      Has (owned L (n + 1)) (n + 1) t := by
    cases res with
    | nil => exact ⟨called, rfl, h.ledger, h.refs⟩
    | cons ai ais => exact ⟨_, drop_of_eq h.ledger, rfl, h.refs⟩
  obtain ⟨u, hu, huhas⟩ := Py_DECREF_spec hhas
  refine ⟨u, ?_, huhas⟩
  change (uv_freeaddrinfo res >>= fun _ => Py_DECREF) called = _
  rw [bind_of_ok ht, hu]

/-- A request that was submitted leaves the references of its user, however it ends. -/
theorem getaddrinfo_completion_spec (o : ByteOrder) (inet : Inet) (E : GaiEnv)
    (h : Has (owned L (n + 1)) (n + 1) s) :
    ∃ t, getaddrinfo_completion o inet E s = .ok () t ∧ Has (owned L n) n t := by
  unfold getaddrinfo_completion
  by_cases hcancelled : E.cancelled = true
  · rw [if_pos hcancelled]
    exact pyuv__getaddrinfo_cb_spec o inet E canceled.n h
  · rw [if_neg hcancelled]
    have hwork := uv__getaddrinfo_work_spec E s
    cases hanswer : E.answer with
    | error e =>
      rw [hanswer] at hwork
      rw [bind_of_ok hwork]
      exact pyuv__getaddrinfo_cb_spec o inet E e.n h
    | ok res =>
      rw [hanswer] at hwork
      rw [bind_of_ok hwork]
      refine pyuv__getaddrinfo_cb_spec o inet E 0 ⟨?_, h.refs⟩
      dsimp only
      rw [h.ledger]

/-- How the end of a call goes once it has its request: libuv does not take it or finds no answer,
it is under way, or the addresses are there. -/
inductive Submitted (E : GaiEnv) (L : Ledger Res) (async : Bool) (h v : Option (List UInt8))
    (i a : Bool) : EStateM.Result Stop State CallEnd → Prop where
  | failed {t : State} (hno : not_taken E h v ≠ none ∨ async = false ∧ ∃ e, E.answer = .error e)
    (ht : Holds (owned L 1) i a 1 true t) : Submitted E L async h v i a (.error .goto_error t)
  | request {t : State} (hasync : async = true) (ht : Has (owned L 1) 2 t) :
    Submitted E L async h v i a (.ok .request t)
  | returned {t : State} {ret : CallEnd} {res : List addrinfo} (hret : ret ≠ .request)
    (htaken : not_taken E h v = none) (hsync : async = false) (hres : E.answer = .ok res)
    (ht : Has (listed res L) 0 t) : Submitted E L async h v i a (.ok ret t)

theorem not_taken_negative {E : GaiEnv} {h v : Option (List UInt8)} {err : Int}
    (hno : not_taken E h v = some err) : err < 0 := by
  unfold not_taken at hno
  split at hno
  · obtain rfl := Option.some.inj hno
    decide
  · obtain ⟨e, -, rfl⟩ := Option.map_eq_some_iff.mp hno
    exact e.negative

theorem listed_owned (res : List addrinfo) (M : Ledger Res) (r : Res) :
    (listed res M).acquire r = listed res (M.acquire r) := by
  unfold listed
  split
  · rfl
  · exact acquire_comm _ _ _

theorem listed_encodings (res : List addrinfo) (M : Ledger Res) (i a : Bool) :
    listed res (encodings i a M) = encodings i a (listed res M) := by
  unfold listed
  split
  · rfl
  · exact acquire_encodings _ i a M

/-- The end of a call whose request libuv has taken. -/
theorem finish_spec (o : ByteOrder) (inet : Inet) (E : GaiEnv) (async : Bool) {res : List addrinfo}
    (h : Holds (listed res (owned L 1)) i a 1 true s) :
    if async then ∃ t, finish o inet E async res s = .ok .request t ∧
      Has (listed res (owned L 1)) 2 t
    else ∃ ret t, finish o inet E async res s = .ok ret t ∧ ret ≠ .request ∧
      Has (listed res L) 0 t := by
  obtain ⟨t, u, ht, hu, hhas, -⟩ := xdecref_spec h
  have hrun : finish o inet E async res s = (if async then (do
      Py_INCREF
      return .request)
    else (do
      Py_DECREF
      return_result (pyuv__getaddrinfo_process_result o inet E 0 res)) : Run CallEnd) u := by
    change (xdecref_idna >>= fun _ => xdecref_ascii >>= fun _ => _ : Run CallEnd) s = _
    rw [bind_of_ok ht]
    exact bind_of_ok hu
  rw [hrun]
  cases async with
  | true =>
    refine ⟨_, rfl, hhas.ledger, ?_⟩
    change u.refs + 1 = 2
    rw [hhas.refs]
  | false =>
    have hlast : Has (owned (listed res L) 1) 1 u := by
      refine ⟨hhas.ledger.trans ?_, hhas.refs⟩
      change listed res ((L.acquire .loop).acquire .callback) =
        ((listed res L).acquire .loop).acquire .callback
      rw [listed_owned, listed_owned]
    obtain ⟨w, hw, hwhas⟩ := Py_DECREF_last hlast
    simp only [Bool.false_eq_true, if_false]
    rw [bind_of_ok hw]
    cases pyuv__getaddrinfo_process_result o inet E 0 res with
    | ok v => exact ⟨_, w, rfl, (fun heq => nomatch heq), hwhas⟩
    | error err => exact ⟨_, _, rfl, (fun heq => nomatch heq), hwhas.ledger, hwhas.refs⟩

/-- The call to libuv, in both forms. -/
theorem submit_spec (o : ByteOrder) (inet : Inet) (E : GaiEnv) (async : Bool)
    (host service : Option (List UInt8)) (hints : List Int) (h : Holds (owned L 1) i a 1 true s) :
    Submitted E L async host service i a (submit o inet E async host service hints s) := by
  let asked : State := { s with submitted := some (.getaddrinfo host service hints) }
  have hasked : Holds (owned L 1) i a 1 true asked := ⟨h.ledger, h.idna, h.ascii, h.refs, h.req⟩
  have hrun : submit o inet E async host service hints s =
      (uv_getaddrinfo E async host service >>= fun r =>
        if r.1 < 0 then fail (.uv .UVError r.1) else finish o inet E async r.2) asked := rfl
  rw [hrun]
  have hfail : ∀ {t : State} {err : Int}, uv_getaddrinfo E async host service asked =
      .ok (err, []) t → err < 0 → t = asked →
      (uv_getaddrinfo E async host service >>= fun r =>
        if r.1 < 0 then fail (.uv .UVError r.1) else finish o inet E async r.2 :
          Run CallEnd) asked =
          .error .goto_error { asked with pending := some (.uv .UVError err) } := by
    intro t err hcall hneg ht
    rw [bind_of_ok hcall, ht]
    dsimp only
    rw [if_pos hneg]
    rfl
  cases htaken : not_taken E host service with
  | some err =>
    have hneg := not_taken_negative htaken
    have hcall : uv_getaddrinfo E async host service asked = .ok (err, []) asked := by
      unfold uv_getaddrinfo
      rw [htaken]
      rfl
    rw [hfail hcall hneg rfl]
    exact .failed (.inl (htaken ▸ Option.some_ne_none err)) hasked.with_pending
  | none =>
    cases async with
    | true =>
      have hcall : uv_getaddrinfo E true host service asked = .ok (0, []) asked := by
        unfold uv_getaddrinfo
        rw [htaken]
        rfl
      have hunlisted : Holds (listed [] (owned L 1)) i a 1 true asked := hasked
      obtain ⟨t, ht, hhas⟩ := finish_spec o inet E true hunlisted
      rw [bind_of_ok hcall]
      dsimp only
      rw [if_neg (by decide), ht]
      exact .request rfl hhas
    | false =>
      have hcall : uv_getaddrinfo E false host service asked = uv__getaddrinfo_work E asked := by
        unfold uv_getaddrinfo
        rw [htaken]
        rfl
      have hwork := uv__getaddrinfo_work_spec E asked
      cases hanswer : E.answer with
      | error e =>
        rw [hanswer] at hwork
        rw [hfail (hcall.trans hwork) e.negative rfl]
        exact .failed (.inr ⟨rfl, e, hanswer⟩) hasked.with_pending
      | ok res =>
        rw [hanswer] at hwork
        have hlisted : Holds (listed res (owned L 1)) i a 1 true
            { asked with ledger := listed res asked.ledger } := by
          refine ⟨?_, h.idna, h.ascii, h.refs, h.req⟩
          dsimp only
          rw [hasked.ledger, listed_encodings]
        obtain ⟨ret, t, ht, hret, hhas⟩ := finish_spec o inet E false hlisted
        rw [bind_of_ok (hcall.trans hwork)]
        dsimp only
        rw [if_neg (by decide), ht]
        exact .returned hret htaken rfl hanswer hhas

/-! ## Which calls of getaddrinfo are settled -/

/-- A call that returns has released everything. -/
theorem settled_returned (h : Has M 0 s) : Settled L (some (s, 0)) ↔ M = L := by
  constructor
  · rintro ⟨t, users, u, heq, -, hdrops, hledger⟩
    cases heq
    cases hdrops
    rw [← h.ledger, hledger]
  · intro hM
    exact ⟨s, 0, s, rfl, h.refs, rfl, h.ledger.trans hM⟩

/-- A request that the user holds is no leak. -/
theorem settled_users (h : Has (owned L n) n s) : Settled L (some (s, n)) := by
  obtain ⟨t, ht, hledger⟩ := user_drops_spec h
  exact ⟨s, n, t, rfl, h.refs, ht, hledger⟩

/-- The function with its two ways out. -/
def guarded (m : Run CallEnd) : Run CallEnd := tryCatch (tryCatch m error_label) returned_null

variable {m : Run CallEnd} {completion : Run Unit} {users : Nat}

theorem guarded_of_goto {t : State} (hm : m (State.initial L) = .error .goto_error t)
    (ht : Holds (owned L b.toNat) i a b.toNat b t) :
    ∃ u, guarded m (State.initial L) = .ok .raised u ∧ Has L 0 u := by
  obtain ⟨u, hu, hhas⟩ := error_label_spec ht
  refine ⟨u, ?_, hhas⟩
  unfold guarded
  rw [tryCatch_of_ok ((tryCatch_of_error hm).trans hu)]

theorem guarded_of_return_null {t : State} (hm : m (State.initial L) = .error .return_null t) :
    guarded m (State.initial L) = .ok .raised t := by
  have hlabel : tryCatch m error_label (State.initial L) = .error .return_null t :=
    tryCatch_of_error hm
  unfold guarded
  rw [tryCatch_of_error hlabel]
  rfl

theorem settled_of_goto {t : State} (hm : m (State.initial L) = .error .goto_error t)
    (ht : Holds (owned L b.toNat) i a b.toNat b t) :
    Settled L (outcome (guarded m) completion users L) := by
  obtain ⟨u, hrun, hhas⟩ := guarded_of_goto hm ht
  unfold outcome
  rw [hrun]
  exact (settled_returned hhas).mpr rfl

/-- A `return NULL` loses what was taken before it. -/
theorem settled_return_null_iff {t : State} (hm : m (State.initial L) = .error .return_null t)
    (ht : Has M 0 t) : Settled L (outcome (guarded m) completion users L) ↔ M = L := by
  unfold outcome
  rw [guarded_of_return_null hm]
  exact settled_returned ht

theorem guarded_of_ok {ret : CallEnd} {t : State} (hm : m (State.initial L) = .ok ret t) :
    guarded m (State.initial L) = .ok ret t := by
  unfold guarded
  exact tryCatch_of_ok (tryCatch_of_ok hm)

theorem settled_ok_iff {call : Run CallEnd} {ret : CallEnd} {t : State}
    (hm : call (State.initial L) = .ok ret t) (hret : ret ≠ .request) (ht : Has M 0 t) :
    Settled L (outcome call completion users L) ↔ M = L := by
  unfold outcome
  rw [hm]
  cases ret with
  | raised => exact settled_returned ht
  | value v => exact settled_returned ht
  | request => exact absurd rfl hret

theorem settled_raise_error (e : PyErr) :
    Settled L (outcome (raise_error e) completion users L) := by
  have hrun : raise_error e (State.initial L) =
      .ok .raised { State.initial L with pending := some e } := rfl
  exact (settled_ok_iff hrun (fun h => CallEnd.noConfusion h) ⟨rfl, rfl⟩).mpr rfl

/-- A request that is under way is settled by its completion. -/
theorem settled_request {call : Run CallEnd} {t : State}
    (hm : call (State.initial L) = .ok .request t) (ht : Has (owned L 1) 2 t)
    (hcompletion : ∀ s, Has (owned L (users + 1)) (users + 1) s →
      ∃ u, completion s = .ok () u ∧ Has (owned L users) users u) :
    Settled L (outcome call completion users L) := by
  have hgiven : Has (owned L (users + 1)) (users + 1) { t with refs := t.refs - 1 + users } := by
    refine ⟨ht.ledger, ?_⟩
    dsimp only
    rw [ht.refs]
    omega
  obtain ⟨u, hu, hhas⟩ := hcompletion _ hgiven
  unfold outcome
  rw [hm]
  dsimp only
  rw [hu]
  exact settled_users hhas

theorem encodings_eq_self_iff : encodings i false L = L ↔ i = false := by
  cases i with
  | false => exact iff_of_true rfl rfl
  | true => exact iff_of_false (acquire_ne _ L) (by decide)

theorem listed_eq_self_iff (res : List addrinfo) : listed res L = L ↔ res = [] := by
  unfold listed
  split
  · rename_i hnil
    exact iff_of_true rfl hnil
  · rename_i hne
    exact iff_of_false (acquire_ne _ L) hne

/-- From where the request is there. -/
theorem submit_settled_iff (o : ByteOrder) (inet : Inet) (E : GaiEnv) {async : Bool}
    {h v : Option (List UInt8)} {hints : List Int} {t : State}
    (hm : m (State.initial L) = submit o inet E async h v hints t)
    (ht : Holds (owned L 1) i a 1 true t) :
    Settled L (outcome (guarded m) (getaddrinfo_completion o inet E) users L) ↔
      ∀ res, async = false → not_taken E h v = none → E.answer = .ok res → res = [] := by
  have hsubmitted := submit_spec o inet E async h v hints ht
  rw [← hm] at hsubmitted
  generalize hrun : m (State.initial L) = r at hsubmitted
  cases hsubmitted with
  | failed hno ht =>
    apply iff_of_true
    · exact settled_of_goto (b := true) hrun ht
    · intro res _ htaken hanswer
      rcases hno with hrefused | ⟨-, e, herror⟩
      · exact absurd htaken hrefused
      · rw [herror] at hanswer
        cases hanswer
  | request hasync ht =>
    apply iff_of_true
    · apply settled_request (guarded_of_ok hrun) ht
      intro u hu
      exact getaddrinfo_completion_spec o inet E hu
    · intro res hsync
      rw [hasync] at hsync
      cases hsync
  | @returned t ret res hret htaken hsync hres ht =>
    have hiff : Settled L (outcome (guarded m) (getaddrinfo_completion o inet E) users L) ↔
        listed res L = L := settled_ok_iff (guarded_of_ok hrun) hret ht
    rw [hiff, listed_eq_self_iff]
    constructor
    · intro hnil res' _ _ hanswer
      rw [hres] at hanswer
      cases hanswer
      exact hnil
    · intro hall
      exact hall res hsync htaken hres

/-- From where the encoding of the host, if any, is there. -/
theorem service_settled_iff (o : ByteOrder) (inet : Inet) (E : GaiEnv) {async : Bool} {c : CStr}
    {h : Option (List UInt8)} {hints : List Int} {t : State}
    (hm : m (State.initial L) = (take_ascii c >>= fun v => new_request E >>= fun _ =>
      submit o inet E async h v hints) t)
    (ht : Holds L i false 0 false t) :
    Settled L (outcome (guarded m) (getaddrinfo_completion o inet E) users L) ↔
      (∀ e, c = .unencoded e → i = false) ∧
        ∀ v a res, c = .got v a → async = false → E.request_alloc = true →
          not_taken E h v = none → E.answer = .ok res → res = [] := by
  have htake := take_ascii_spec c ht
  cases c with
  | unencoded e =>
    obtain ⟨u, hu, hhas⟩ := htake
    rw [settled_return_null_iff (hm.trans (bind_of_error hu)) hhas, encodings_eq_self_iff]
    constructor
    · intro hnot
      exact ⟨fun _ _ => hnot, (fun v a res hgot => nomatch hgot)⟩
    · intro hall
      exact hall.1 e rfl
  | refused e =>
    obtain ⟨u, hu, hholds⟩ := htake
    apply iff_of_true
    · exact settled_of_goto (b := false) (hm.trans (bind_of_error hu)) hholds
    · exact ⟨(fun _ heq => nomatch heq), (fun v a res hgot => nomatch hgot)⟩
  | got v a =>
    obtain ⟨u, hu, hholds⟩ := htake
    have hrequest := new_request_spec E hholds
    by_cases halloc : E.request_alloc = true
    · obtain ⟨w, hw, hwholds⟩ := hrequest.1 halloc
      have hsubmit : m (State.initial L) = submit o inet E async h v hints w := by
        rw [hm, bind_of_ok hu, bind_of_ok hw]
      rw [submit_settled_iff o inet E hsubmit hwholds]
      constructor
      · intro hall
        refine ⟨(fun _ heq => nomatch heq), ?_⟩
        intro v' a' res hgot hsync _ htaken hanswer
        cases hgot
        exact hall res hsync htaken hanswer
      · intro hall res hsync htaken hanswer
        exact hall.2 v a res rfl hsync halloc htaken hanswer
    · obtain ⟨w, hw, hwholds⟩ := hrequest.2 (Bool.eq_false_iff.mpr halloc)
      have hgoto : m (State.initial L) = .error .goto_error w := by
        rw [hm, bind_of_ok hu, bind_of_error hw]
      apply iff_of_true
      · exact settled_of_goto (b := false) hgoto hwholds
      · refine ⟨(fun _ heq => nomatch heq), ?_⟩
        intro v' a' res _ _ hyes
        exact absurd hyes halloc

/-- A service that cannot be encoded comes without an encoding of the host, and a synchronous call
that has an answer has an empty one. -/
def getaddrinfo_settles (E : GaiEnv) (args : GaiArgs) : Prop :=
  ∀ hints h i, args.loop = true →
    integers.pass_all integers.Util_func_getaddrinfo.positions args.hints = .ok hints →
    host_of E args.host = .got h i → args.callback.getD .Py_None ≠ .other →
    (∀ e, service_of E (args.service.getD .Py_None) = .unencoded e → i = false) ∧
      ∀ v a res, service_of E (args.service.getD .Py_None) = .got v a →
        args.callback.getD .Py_None = .Py_None → E.request_alloc = true →
        not_taken E h v = none → E.answer = .ok res → res = []

/-- The function without its clean-up, step by step. -/
theorem attempt_eq (o : ByteOrder) (inet : Inet) (E : GaiEnv) (args : GaiArgs) (hints : List Int) :
    attempt o inet E args hints = (take_idna (host_of E args.host) >>= fun host =>
      check_callback (args.callback.getD .Py_None) >>= fun _ =>
      take_ascii (service_of E (args.service.getD .Py_None)) >>= fun service =>
      new_request E >>= fun _ =>
      submit o inet E (args.callback.getD .Py_None ≠ .Py_None) host service hints) := rfl

/-- The function past the parser. -/
theorem attempt_settled_iff (o : ByteOrder) (inet : Inet) (E : GaiEnv) (args : GaiArgs)
    (hints : List Int) (users : Nat) (L : Ledger Res) :
    Settled L (outcome (guarded (attempt o inet E args hints)) (getaddrinfo_completion o inet E)
      users L) ↔
    ∀ h i, host_of E args.host = .got h i → args.callback.getD .Py_None ≠ .other →
      (∀ e, service_of E (args.service.getD .Py_None) = .unencoded e → i = false) ∧
        ∀ v a res, service_of E (args.service.getD .Py_None) = .got v a →
          args.callback.getD .Py_None = .Py_None → E.request_alloc = true →
          not_taken E h v = none → E.answer = .ok res → res = [] := by
  rw [attempt_eq]
  have hhost := take_idna_spec (host_of E args.host) L
  cases hof : host_of E args.host with
  | unencoded e =>
    rw [hof] at hhost
    obtain ⟨t, ht, hhas⟩ := hhost
    apply iff_of_true
    · exact (settled_return_null_iff (bind_of_error ht) hhas).mpr rfl
    · intro h i hgot
      cases hgot
  | refused e =>
    rw [hof] at hhost
    obtain ⟨t, ht, hholds⟩ := hhost
    apply iff_of_true
    · exact settled_of_goto (b := false) (bind_of_error ht) hholds
    · intro h i hgot
      cases hgot
  | got h i =>
    rw [hof] at hhost
    obtain ⟨t, ht, hholds⟩ := hhost
    have hstart := fun (f : Option (List UInt8) → Run CallEnd) => bind_of_ok (f := f) ht
    by_cases hother : args.callback.getD .Py_None = .other
    · have hcheck : check_callback (args.callback.getD .Py_None) t = .error .goto_error
          { t with
            pending := some (.text .TypeError "'callback' must be a callable or None") } := by
        unfold check_callback
        rw [if_pos hother]
        rfl
      apply iff_of_true
      · exact settled_of_goto (b := false) ((hstart _).trans (bind_of_error hcheck))
          hholds.with_pending
      · intro _ _ _ hne
        exact absurd hother hne
    · have hcheck : check_callback (args.callback.getD .Py_None) t = .ok () t := by
        unfold check_callback
        rw [if_neg hother]
        rfl
      have hpassed := fun (f : Unit → Run CallEnd) => bind_of_ok (f := f) hcheck
      rw [service_settled_iff o inet E ((hstart _).trans (hpassed _)) hholds]
      simp only [decide_eq_false_iff_not, ne_eq, not_not]
      constructor
      · intro hall h' i' hgot _
        cases hgot
        exact hall
      · intro hall
        exact hall h i rfl hother

/-- Every call, with the calls that lose something. -/
theorem getaddrinfo_settled_iff (o : ByteOrder) (inet : Inet) (E : GaiEnv) (args : GaiArgs)
    (users : Nat) (L : Ledger Res) :
    Settled L (outcome (Util_func_getaddrinfo o inet E args) (getaddrinfo_completion o inet E)
      users L) ↔ getaddrinfo_settles E args := by
  unfold Util_func_getaddrinfo
  cases hloop : args.loop with
  | false =>
    apply iff_of_true (settled_raise_error _)
    intro _ _ _ h
    rw [hloop] at h
    cases h
  | true =>
    cases hhints : integers.pass_all integers.Util_func_getaddrinfo.positions args.hints with
    | error e =>
      apply iff_of_true (settled_raise_error _)
      intro _ _ _ _ h
      rw [hhints] at h
      cases h
    | ok hints =>
      have hguarded := attempt_settled_iff o inet E args hints users L
      rw [attempt_eq] at hguarded
      refine Iff.trans hguarded ?_
      constructor
      · intro h _ host i _ _ hhost hcallback
        exact h host i hhost hcallback
      · intro h host i hhost hcallback
        exact h hints host i hloop hhints hhost hcallback

end pyuv.dns
