-- The strings that Process.spawn makes for uv_spawn: which objects it takes for one, and what the
-- two vectors have, be they done or not.
import Pyuv.Spawn

set_option linter.style.nameCheck false

namespace pyuv.spawn

open ends ledgers ledgers.Ledger cvectors

/-! ## What a phase changes -/

/-- The ledger after some resources were acquired. -/
def State.took (rs : List Res) (s : State) : State := { s with ledger := acquireAll rs s.ledger }

/-- The state with an exception. -/
def State.failing (e : Exc) (s : State) : State := { s with pending := some e }

/-- The memory of a string. -/
def CString.res (p : CString) : Res := .block p.block

theorem took_took (rs ss : List Res) (s : State) : (s.took rs).took ss = s.took (ss ++ rs) := by
  unfold State.took
  rw [acquireAll_append]

theorem took_cons (r : Res) (rs : List Res) (s : State) : (s.took [r]).took rs = s.took
    (r :: rs) := by
  unfold State.took
  dsimp only
  rw [acquireAll_cons, acquireAll_cons, acquireAll_nil, acquireAll_acquire]

@[simp]
theorem vector_took (w : Vec) (rs : List Res) (s : State) :
    (s.took rs).vector w = s.vector w := by cases w <;> rfl

@[simp]
theorem vector_set (w : Vec) (v : List (Slot CString)) (s : State) :
    (s.set_vector w v).vector w = some v := by cases w <;> rfl

theorem set_set (w : Vec) (v v' : List (Slot CString)) (s : State) :
    (s.set_vector w v).set_vector w v' = s.set_vector w v' := by cases w <;> rfl

theorem set_took (w : Vec) (v : List (Slot CString)) (rs : List Res) (s : State) :
    (s.took rs).set_vector w v = (s.set_vector w v).took rs := by cases w <;> rfl

theorem set_failing (w : Vec) (v : List (Slot CString)) (e : Exc) (s : State) :
    (s.failing e).set_vector w v = (s.set_vector w v).failing e := by cases w <;> rfl

theorem release_took (r : Res) (s : State) : release r (s.took [r]) = .ok () s :=
  release_in_ok rfl

theorem release_failing (r : Res) (e : Exc) (s : State) :
    release r ((s.took [r]).failing e) = .ok () (s.failing e) := release_in_ok rfl

theorem release_took_took (r r' : Res) (s : State) :
    release r ((s.took [r]).took [r']) = .ok () (s.took [r']) := by
  have hcomm : (s.took [r]).took [r'] = (s.took [r']).took [r] := by
    rw [took_took, took_took]
    unfold State.took
    simp only [List.cons_append, List.nil_append, acquireAll_cons]
    rw [acquire_comm]
  rw [hcomm, release_took]

theorem release_took_many (r : Res) (rs : List Res) (s : State) :
    release r ((s.took [r]).took rs) = .ok () (s.took rs) := by
  rw [took_cons]
  exact release_in_ok rfl

/-! ## Strings -/

variable (M : Machine) (prior : Prior)

/-- The bytes of an object without a NUL in them. -/
def encoded (obj : PyObj) : Option (List UInt8) :=
  (encoding M obj).filter fun data => data.length = strlen data

/-- The copy that pyuv_dup_strobj makes of an object. -/
def dup (out : Block) (obj : PyObj) : Option CString :=
  (encoded M obj).bind fun data =>
    if allocates M out (data.length + 1) then some ⟨out, data⟩ else none

/-- The argument that is made of an item. -/
def arg (i : Nat) (item : Option PyObj) : Option CString := item.bind (dup M (.arg i))

/-- The entry that is made of a key and its value. -/
def entry (i : Nat) (key value : PyObj) : Option CString :=
  (encoded M key).bind fun key => (encoded M value).bind fun value =>
    if allocates M (.entry i) (key.length + value.length + 2) then
      some ⟨.entry i,
        PyOS_snprintf prior (.entry i) (key.length + value.length + 2) (entry_text key value)⟩
    else none

/-- What gives a string allocates it, and raises an exception where it gives none. -/
structure Gives (m : Run (Option CString)) (x : Option CString) : Prop where
  given : ∀ p, x = some p → ∀ s, m s = .ok (some p) (s.took [p.res])
  missing : x = none → ∀ s, ∃ e, m s = .ok none (s.failing e)

variable {M prior}

theorem Gives.bind {α : Type} {m : Run (Option CString)} {x : Option CString} (h : Gives m x)
    (f : Option CString → Run α) (s : State) :
    (∀ p, x = some p → (m >>= f) s = f (some p) (s.took [p.res])) ∧
      (x = none → ∃ e, (m >>= f) s = f none (s.failing e)) := by
  constructor
  · intro p hp
    exact bind_of_ok (h.given p hp s)
  · intro hnone
    obtain ⟨e, he⟩ := h.missing hnone s
    exact ⟨e, bind_of_ok he⟩

theorem strlen_eq_length_iff {data : List UInt8} : data.length = strlen data ↔ 0 ∉ data := by
  unfold strlen
  induction data with
  | nil => simp
  | cons b data ih =>
    by_cases hb : b = 0
    · simp [hb]
    · rw [List.takeWhile_cons_of_pos (by simpa using hb), List.length_cons, List.length_cons,
        Nat.add_right_cancel_iff, ih, List.mem_cons]
      simp [Ne.symm hb]

theorem encoded_eq_some_iff {obj : PyObj} {data : List UInt8} :
    encoded M obj = some data ↔ encoding M obj = some data ∧ 0 ∉ data := by
  unfold encoded
  rw [Option.filter_eq_some_iff, decide_eq_true_iff, strlen_eq_length_iff]

theorem take_strlen {data : List UInt8} (h : 0 ∉ data) : data.take (strlen data) = data := by
  rw [← strlen_eq_length_iff.mpr h, List.take_length]

theorem FSConverter_some {obj : PyObj} {data : List UInt8} (h : encoded M obj = some data)
    (addr : Ref) (s : State) :
    pyuv_PyUnicode_FSConverter M obj addr s = .ok (some data) (s.took [.ref addr]) := by
  obtain ⟨henc, hnul⟩ := encoded_eq_some_iff.mp h
  unfold pyuv_PyUnicode_FSConverter
  rw [henc]
  have hlen : ¬data.length ≠ strlen data := not_not.mpr (strlen_eq_length_iff.mpr hnul)
  change checked_output data addr (s.took [.ref addr]) = _
  unfold checked_output
  rw [if_neg hlen]
  rfl

theorem FSConverter_none {obj : PyObj} (h : encoded M obj = none) (addr : Ref) (s : State) :
    ∃ e, pyuv_PyUnicode_FSConverter M obj addr s = .ok none (s.failing e) := by
  unfold pyuv_PyUnicode_FSConverter
  cases henc : encoding M obj with
  | none => exact ⟨_, rfl⟩
  | some output =>
    have hlen : output.length ≠ strlen output := by
      intro hlen
      rw [encoded_eq_some_iff.mpr ⟨henc, strlen_eq_length_iff.mp hlen⟩] at h
      cases h
    refine ⟨.TypeError "embedded NUL character", ?_⟩
    change checked_output output addr (s.took [.ref addr]) = _
    unfold checked_output
    rw [if_pos hlen]
    change (Py_DECREF addr >>= fun _ => pure none) ((s.took [.ref addr]).failing _) = _
    unfold Py_DECREF
    rw [bind_of_ok (release_failing _ _ s)]
    rfl

theorem PyMem_Malloc_eq (b : Block) (size : Nat) (s : State) :
    PyMem_Malloc M b size s =
      .ok (allocates M b size) (if allocates M b size then s.took [.block b] else s) := by
  unfold PyMem_Malloc
  cases allocates M b size <;> rfl

theorem dup_eq_some_iff {out : Block} {obj : PyObj} {p : CString} :
    dup M out obj = some p ↔ ∃ data, encoded M obj = some data ∧
      allocates M out (data.length + 1) = true ∧ p = ⟨out, data⟩ := by
  unfold dup
  rw [Option.bind_eq_some_iff]
  apply exists_congr
  intro data
  by_cases hall : allocates M out (data.length + 1) = true
  · simp [hall, eq_comm]
  · simp [hall]

theorem pyuv_dup_strobj_eq {obj : PyObj} {data : List UInt8} (h : encoded M obj = some data)
    (out : Block) (s : State) :
    pyuv_dup_strobj M obj out s = duplicated data out (allocates M out (data.length + 1))
      (if allocates M out (data.length + 1) then (s.took [.ref .bytes]).took [.block out]
        else s.took [.ref .bytes]) := by
  unfold pyuv_dup_strobj
  rw [bind_of_ok (FSConverter_some h .bytes s)]
  dsimp only
  rw [bind_of_ok (PyMem_Malloc_eq out (data.length + 1) (s.took [.ref .bytes]))]

theorem pyuv_dup_strobj.gives (obj : PyObj) (out : Block) :
    Gives (pyuv_dup_strobj M obj out) (dup M out obj) where
  given := by
    intro p hp s
    obtain ⟨data, henc, hall, rfl⟩ := dup_eq_some_iff.mp hp
    rw [pyuv_dup_strobj_eq henc, hall]
    exact bind_of_ok (release_took_took _ _ s)
  missing := by
    intro hnone s
    cases henc : encoded M obj with
    | none =>
      obtain ⟨e, he⟩ := FSConverter_none henc .bytes s
      refine ⟨e, ?_⟩
      unfold pyuv_dup_strobj
      rw [bind_of_ok he]
      rfl
    | some data =>
      have hall : allocates M out (data.length + 1) = false := by
        rw [Bool.eq_false_iff]
        intro hall
        rw [dup_eq_some_iff.mpr ⟨data, henc, hall, rfl⟩] at hnone
        cases hnone
      refine ⟨.MemoryError, ?_⟩
      rw [pyuv_dup_strobj_eq henc, hall]
      exact bind_of_ok (release_failing _ _ s)

theorem arg_item.gives (i : Nat) (item : Option PyObj) :
    Gives (arg_item M i item) (arg M i item) where
  given := by
    intro p hp s
    obtain ⟨obj, rfl, hobj⟩ := Option.bind_eq_some_iff.mp hp
    have hdup := (pyuv_dup_strobj.gives obj (.arg i)).given p hobj (s.took [.ref .item])
    refine (bind_of_ok hdup).trans ?_
    exact bind_of_ok (release_took_took _ _ s)
  missing := by
    intro hnone s
    cases item with
    | none => exact ⟨.raised, rfl⟩
    | some obj =>
      obtain ⟨e, he⟩ := (pyuv_dup_strobj.gives obj (.arg i)).missing hnone (s.took [.ref .item])
      refine ⟨e, (bind_of_ok he).trans ?_⟩
      exact bind_of_ok (release_failing _ _ s)

theorem entry_eq_some_iff {i : Nat} {key value : PyObj} {p : CString} :
    entry M prior i key value = some p ↔ ∃ k v, encoded M key = some k ∧
      encoded M value = some v ∧ allocates M (.entry i) (k.length + v.length + 2) = true ∧
      p = ⟨.entry i,
        PyOS_snprintf prior (.entry i) (k.length + v.length + 2) (entry_text k v)⟩ := by
  unfold entry
  simp only [Option.bind_eq_some_iff, ← exists_and_left, Option.ite_none_right_eq_some,
    Option.some.injEq, eq_comm (a := p)]

theorem env_entry_eq {key value : PyObj} {k v : List UInt8} (hkey : encoded M key = some k)
    (hvalue : encoded M value = some v) (i : Nat) (s : State) :
    env_entry M prior i key value s =
      entry_written prior i k v (allocates M (.entry i) (k.length + v.length + 2))
        (if allocates M (.entry i) (k.length + v.length + 2) then
          ((s.took [.ref .key_bytes]).took [.ref .value_bytes]).took [.block (.entry i)]
        else (s.took [.ref .key_bytes]).took [.ref .value_bytes]) := by
  unfold env_entry
  rw [bind_of_ok (FSConverter_some hkey .key_bytes s)]
  dsimp only
  unfold entry_value
  rw [bind_of_ok (FSConverter_some hvalue .value_bytes _)]
  dsimp only
  rw [bind_of_ok (PyMem_Malloc_eq (.entry i) (k.length + v.length + 2) _)]

theorem env_entry.gives (i : Nat) (key value : PyObj) :
    Gives (env_entry M prior i key value) (entry M prior i key value) where
  given := by
    intro p hp s
    obtain ⟨k, v, hkey, hvalue, hall, rfl⟩ := entry_eq_some_iff.mp hp
    rw [env_entry_eq hkey hvalue, hall, if_pos rfl, took_took]
    refine (bind_of_ok (release_took_many _ _ s)).trans ?_
    have hvalues := release_took_took (.ref .value_bytes) (.block (.entry i)) s
    rw [took_took] at hvalues
    exact bind_of_ok hvalues
  missing := by
    intro hnone s
    cases hkey : encoded M key with
    | none =>
      obtain ⟨e, he⟩ := FSConverter_none hkey .key_bytes s
      refine ⟨e, ?_⟩
      unfold env_entry
      rw [bind_of_ok he]
      rfl
    | some k =>
      cases hvalue : encoded M value with
      | none =>
        obtain ⟨e, he⟩ := FSConverter_none hvalue .value_bytes (s.took [.ref .key_bytes])
        refine ⟨e, ?_⟩
        unfold env_entry
        rw [bind_of_ok (FSConverter_some hkey .key_bytes s)]
        dsimp only
        unfold entry_value
        rw [bind_of_ok he]
        exact bind_of_ok (release_failing _ _ s)
      | some v =>
        have hall : allocates M (.entry i) (k.length + v.length + 2) = false := by
          rw [Bool.eq_false_iff]
          intro hall
          rw [entry_eq_some_iff.mpr ⟨k, v, hkey, hvalue, hall, rfl⟩] at hnone
          cases hnone
        refine ⟨.MemoryError, ?_⟩
        rw [env_entry_eq hkey hvalue, hall]
        have hkeys := release_took_took (.ref .key_bytes) (.ref .value_bytes)
          (s.failing .MemoryError)
        refine (bind_of_ok hkeys).trans ?_
        exact bind_of_ok (release_failing _ _ s)

/-! ## The vectors -/

/-- What is given in order fills the vector up to the first that is missing. -/
theorem vector_loop.spec {w : Vec} {xs : List (Run (Option CString))}
    {ys : List (Option CString)} (h : List.Forall₂ Gives xs ys) (ps : List CString) (room : Nat)
    (s : State) (hs : s.vector w = some (building ps room)) :
    match fill ys room with
    | .done qs => ∃ v, scan v = some (ps ++ qs) ∧
        vector_loop w xs ps.length s = .ok () ((s.set_vector w v).took (qs.map CString.res))
    | .failed qs => ∃ v e, scan v = some (ps ++ qs) ∧ vector_loop w xs ps.length s =
        .error .goto_error (((s.set_vector w v).took (qs.map CString.res)).failing e)
    | .overrun => ∃ t, vector_loop w xs ps.length s = .error .crash t := by
  induction h generalizing ps room s with
  | nil =>
    cases room with
    | zero =>
      refine ⟨s, ?_⟩
      change write_slot w ps.length .null s = _
      unfold write_slot
      rw [hs, Option.bind_some, write_full]
    | succ room =>
      obtain ⟨v, hv, hscan⟩ := write_null ps room
      refine ⟨v, by rw [List.append_nil]; exact hscan, ?_⟩
      change write_slot w ps.length .null s = _
      unfold write_slot
      rw [hs, Option.bind_some, hv]
      rfl
  | @cons x y xs ys hxy hrest ih =>
    cases room with
    | zero =>
      have hfull : ∀ t, t.vector w = some (building ps 0) → ∀ p : Option CString,
          write_slot w ps.length (CString.slot p) t = .error .crash t := by
        intro t ht p
        unfold write_slot
        rw [ht, Option.bind_some, write_full]
      have hfill : fill (y :: ys) 0 = .overrun := by cases y <;> rfl
      rw [hfill]
      cases y with
      | none =>
        obtain ⟨e, he⟩ := hxy.missing rfl s
        refine ⟨s.failing e, ?_⟩
        unfold vector_loop
        rw [bind_of_ok he]
        exact bind_of_error (hfull (s.failing e) (by cases w <;> exact hs) none)
      | some p =>
        refine ⟨s.took [p.res], ?_⟩
        unfold vector_loop
        rw [bind_of_ok (hxy.given p rfl s)]
        exact bind_of_error (hfull (s.took [p.res]) (by rw [vector_took]; exact hs) (some p))
    | succ room =>
      cases y with
      | none =>
        obtain ⟨e, he⟩ := hxy.missing rfl s
        obtain ⟨v, hv, hscan⟩ := write_null ps room
        refine ⟨v, e, by rw [List.append_nil]; exact hscan, ?_⟩
        have hwrite : write_slot w ps.length (CString.slot none) (s.failing e) =
            .ok () ((s.set_vector w v).failing e) := by
          have hs' : (s.failing e).vector w = some (building ps (room + 1)) := by
            cases w <;> exact hs
          unfold write_slot CString.slot
          rw [hs', Option.bind_some, hv]
          exact congrArg _ (set_failing w v e s)
        unfold vector_loop
        rw [bind_of_ok he, bind_of_ok hwrite]
        rfl
      | some p =>
        have hs' : (s.took [p.res]).vector w = some (building ps (room + 1)) := by
          rw [vector_took]
          exact hs
        have hwrite : write_slot w ps.length (CString.slot (some p)) (s.took [p.res]) =
            .ok () ((s.set_vector w (building (ps ++ [p]) room)).took [p.res]) := by
          unfold write_slot CString.slot
          rw [hs', Option.bind_some, write_ptr]
          exact congrArg _ (set_took w _ _ s)
        have hloop : vector_loop w (x :: xs) ps.length s =
            vector_loop w xs (ps ++ [p]).length
              ((s.set_vector w (building (ps ++ [p]) room)).took [p.res]) := by
          conv_lhs => unfold vector_loop
          rw [bind_of_ok (hxy.given p rfl s), bind_of_ok hwrite, List.length_append]
          rfl
        have hnext := ih (ps ++ [p]) room
          ((s.set_vector w (building (ps ++ [p]) room)).took [p.res])
          (by rw [vector_took, vector_set])
        rw [hloop]
        have hstate : ∀ v (qs : List CString),
            (((s.set_vector w (building (ps ++ [p]) room)).took [p.res]).set_vector w v).took
              (qs.map CString.res) = (s.set_vector w v).took ((p :: qs).map CString.res) := by
          intro v qs
          rw [set_took, set_set, took_cons]
          rfl
        change match (fill ys room).cons p with
          | .done qs => _
          | .failed qs => _
          | .overrun => _
        cases hfill : fill ys room with
        | done qs =>
          rw [hfill] at hnext
          obtain ⟨v, hscan, hrun⟩ := hnext
          rw [List.append_assoc] at hscan
          exact ⟨v, hscan, by rw [hrun, hstate]⟩
        | failed qs =>
          rw [hfill] at hnext
          obtain ⟨v, e, hscan, hrun⟩ := hnext
          rw [List.append_assoc] at hscan
          exact ⟨v, e, hscan, by rw [hrun, hstate]⟩
        | overrun =>
          rw [hfill] at hnext
          exact hnext

/-- What comes of a phase that allocates a vector and fills it, if it gets to that. -/
structure Builds (w : Vec) (b : Block) (f : Option (Filled CString)) (m : Run Unit) : Prop where
  done : ∀ qs, f = some (.done qs) → ∀ s, ∃ v, scan v = some qs ∧
    m s = .ok () ((s.set_vector w v).took (qs.map CString.res ++ [.block b]))
  failed : ∀ qs, f = some (.failed qs) → ∀ s, ∃ v e, scan v = some qs ∧
    m s = .error .goto_error
      (((s.set_vector w v).took (qs.map CString.res ++ [.block b])).failing e)
  missing : f = none → ∀ s, ∃ e, m s = .error .goto_error (s.failing e)
  overrun : f = some .overrun → ∀ s, ∃ t, m s = .error .crash t

theorem filled_vector.builds (w : Vec) (b : Block) (size : Nat) {xs : List (Run (Option CString))}
    {ys : List (Option CString)} (h : List.Forall₂ Gives xs ys) (slots : Nat) :
    Builds w b (if allocates M b size then some (fill ys slots) else none)
      (PyMem_Malloc M b size >>= filled_vector w xs slots) := by
  have hmalloc := fun s => bind_of_ok (f := filled_vector w xs slots)
    (PyMem_Malloc_eq (M := M) b size s)
  cases hall : allocates M b size with
  | false =>
    refine ⟨(fun _ h => nomatch h), (fun _ h => nomatch h), fun _ s => ?_, (fun h => nomatch h)⟩
    rw [hmalloc s, hall]
    exact ⟨.MemoryError, rfl⟩
  | true =>
    have hspec := fun s : State => vector_loop.spec h [] slots
      ((s.took [.block b]).set_vector w (building [] slots)) (vector_set w _ _)
    have hrun : ∀ s, (PyMem_Malloc M b size >>= filled_vector w xs slots) s =
        vector_loop w xs 0 ((s.took [.block b]).set_vector w (building [] slots)) := by
      intro s
      rw [hmalloc s, hall]
      rfl
    have hstate : ∀ (s : State) v (qs : List CString),
        (((s.took [.block b]).set_vector w (building [] slots)).set_vector w v).took
          (qs.map CString.res) = (s.set_vector w v).took (qs.map CString.res ++ [.block b]) := by
      intro s v qs
      rw [set_set, set_took, took_took]
    refine ⟨fun qs hf s => ?_, fun qs hf s => ?_, (fun h => nomatch h), fun hf s => ?_⟩
    · have hsp := hspec s
      rw [Option.some.inj hf] at hsp
      obtain ⟨v, hscan, hv⟩ := hsp
      exact ⟨v, hscan, by rw [hrun s, ← hstate]; exact hv⟩
    · have hsp := hspec s
      rw [Option.some.inj hf] at hsp
      obtain ⟨v, e, hscan, hv⟩ := hsp
      exact ⟨v, e, hscan, by rw [hrun s, ← hstate]; exact hv⟩
    · have hsp := hspec s
      rw [Option.some.inj hf] at hsp
      rw [hrun s]
      exact hsp

variable (M prior)

/-- How far the filling of `options.args` comes, none without memory for it. -/
def args_filled : Arguments → Option (Filled CString)
  | .text t =>
    if allocates M .argv (8 * 2) then some (fill [dup M (.arg 0) (.text t)] 2) else none
  | .sequence s =>
    if s.length < 1 then none
    else if allocates M .argv (size_t (8 * (s.length + 1))) then
      some (fill ((List.range s.length.toNat).map fun i => arg M i (s.item i))
        (slots (s.length + 1)))
    else none
  | .other => none

/-- The same for `options.env`. -/
def env_filled (entries : List (PyObj × PyObj)) : Option (Filled CString) :=
  if allocates M .envp (8 * (entries.length + 1)) then
    some (fill (entries.mapIdx fun i e => entry M prior i e.1 e.2) (entries.length + 1))
  else none

variable {M prior}

theorem process_args.builds (arguments : Arguments) :
    Builds .args .argv (args_filled M arguments) (process_args M arguments) := by
  cases arguments with
  | text t =>
    apply filled_vector.builds
    exact .cons (pyuv_dup_strobj.gives (.text t) (.arg 0)) .nil
  | sequence s =>
    unfold args_filled process_args
    dsimp only
    by_cases hlen : s.length < 1
    · rw [if_pos hlen, if_pos hlen]
      exact ⟨(fun _ h => nomatch h), (fun _ h => nomatch h), fun _ s => ⟨_, rfl⟩,
        (fun h => nomatch h)⟩
    · rw [if_neg hlen, if_neg hlen]
      apply filled_vector.builds
      rw [List.forall₂_map_left_iff, List.forall₂_map_right_iff, List.forall₂_same]
      exact fun i _ => arg_item.gives i (s.item i)
  | other =>
    exact ⟨(fun _ h => nomatch h), (fun _ h => nomatch h), fun _ s => ⟨_, rfl⟩,
      (fun h => nomatch h)⟩

theorem process_env.builds (prior : Prior) {d : Dict} (h : d.entries.length > 0) :
    Builds .env .envp (env_filled M prior d.entries) (process_env M prior (some d)) := by
  unfold process_env
  dsimp only
  rw [if_pos h]
  apply filled_vector.builds
  rw [List.mapIdx_eq_zipIdx_map, List.mapIdx_eq_zipIdx_map, List.forall₂_map_left_iff,
    List.forall₂_map_right_iff, List.forall₂_same]
  exact fun e _ => env_entry.gives e.2 e.1.1 e.1.2

/-! ## The strings of a call -/

/-- The strings of a spawn. -/
structure Prepared where
  args : List CString
  file : CString
  cwd : Option CString
  env : Option (List CString)

variable (M prior)

/-- The string `options.file`, none where the part fails. -/
def file_string (args : List CString) (executable : PyObj) : Option CString :=
  match executable with
  | .None => args.head?.bind fun arg0 =>
    if allocates M .file (strlen arg0.bytes + 1) then
      some ⟨.file, arg0.bytes.take (strlen arg0.bytes)⟩
    else none
  | obj => dup M .file obj

/-- The string `options.cwd`, where one is asked for. -/
def cwd_string (cwd : PyObj) : Option (Option CString) :=
  match cwd with
  | .None => some none
  | obj => (dup M .cwd obj).map some

/-- The strings of `options.env`, where there are entries. -/
def env_strings (env : Option Dict) : Option (Option (List CString)) :=
  match env with
  | none => some none
  | some d =>
    if d.entries.length > 0 then
      match env_filled M prior d.entries with
      | some (.done es) => some (some es)
      | _ => none
    else some none

/-- All the strings, none where one of the parts fails. -/
def prepared (vars : Vars) : Option Prepared :=
  match args_filled M vars.arguments with
  | some (.done args) => do
    let file ← file_string M args vars.executable
    let cwd ← cwd_string M vars.cwd
    let env ← env_strings M prior vars.env
    return { args, file, cwd, env }
  | _ => none

variable {M prior}

/-- A vector of args that is done has a first string. -/
theorem args_filled_ne_nil {arguments : Arguments} {as : List CString}
    (h : args_filled M arguments = some (.done as)) : ∃ a as', as = a :: as' := by
  have hlen : ∀ (xs : List (Option CString)) (room : Nat), xs ≠ [] → fill xs room = .done as →
      ∃ a as', as = a :: as' := by
    intro xs room hxs hfill
    obtain ⟨rfl, -⟩ := fill_eq_done_iff.mp hfill
    cases as with
    | nil => exact absurd rfl hxs
    | cons a as => exact ⟨a, as, rfl⟩
  cases arguments with
  | text t =>
    unfold args_filled at h
    dsimp only at h
    split at h
    · exact hlen _ _ (List.cons_ne_nil _ _) (Option.some.inj h)
    · cases h
  | sequence s =>
    unfold args_filled at h
    dsimp only at h
    split at h
    · cases h
    · rename_i hone
      split at h
      · refine hlen _ _ ?_ (Option.some.inj h)
        intro hnil
        have hzero : s.length.toNat = 0 := by simpa using congrArg List.length hnil
        omega
      · cases h
  | other => cases h

theorem scan_cons {a : CString} {as : List CString} {v : List (Slot CString)}
    (h : scan v = some (a :: as)) : ∃ v', v = .ptr a :: v' := by
  cases v with
  | nil => cases h
  | cons x v =>
    cases x with
    | unwritten => cases h
    | null => cases h
    | ptr b =>
      obtain ⟨bs, -, hcons⟩ := Option.map_eq_some_iff.mp h
      injection hcons with hab
      exact ⟨v, by rw [hab]⟩

/-- `options.file` is written. -/
def State.with_file (p : CString) (s : State) : State :=
  { s with options := { s.options with file := some p } }

/-- `options.cwd` is written. -/
def State.with_cwd (p : CString) (s : State) : State :=
  { s with options := { s.options with cwd := some p } }

theorem process_file.spec (executable : PyObj) {a : CString} {as : List CString}
    {v : List (Slot CString)} {s : State} (hargs : s.options.args = some v)
    (hscan : scan v = some (a :: as)) :
    (∀ p, file_string M (a :: as) executable = some p →
      process_file M executable s = .ok () ((s.with_file p).took [p.res])) ∧
    (file_string M (a :: as) executable = none →
      ∃ e, process_file M executable s = .error .goto_error (s.failing e)) := by
  cases executable with
  | None =>
    obtain ⟨v', rfl⟩ := scan_cons hscan
    have hrun : process_file M .None s =
        copied_file (a.bytes.take (strlen a.bytes)) (allocates M .file (strlen a.bytes + 1))
          (if allocates M .file (strlen a.bytes + 1) then s.took [.block .file] else s) := by
      have hget : (get : Run State) s = .ok s s := rfl
      unfold process_file
      dsimp only
      rw [bind_of_ok hget, hargs]
      dsimp only
      rw [bind_of_ok (PyMem_Malloc_eq .file _ s)]
    have hstring : file_string M (a :: as) .None =
        if allocates M .file (strlen a.bytes + 1) then
          some ⟨.file, a.bytes.take (strlen a.bytes)⟩ else none := rfl
    rw [hrun, hstring]
    cases hall : allocates M .file (strlen a.bytes + 1) with
    | true =>
      refine ⟨fun p hp => ?_, (fun h => nomatch h)⟩
      obtain rfl := Option.some.inj hp
      rfl
    | false => exact ⟨(fun _ h => nomatch h), fun _ => ⟨.MemoryError, rfl⟩⟩
  | text t => exact (pyuv_dup_strobj.gives (.text t) .file).bind set_file s
  | other => exact (pyuv_dup_strobj.gives .other .file).bind set_file s

/-- cwd stays NULL where it is None. -/
def State.cwd_set (p : Option CString) (s : State) : State :=
  match p with
  | none => s
  | some p => (s.with_cwd p).took [p.res]

theorem process_cwd.spec (cwd : PyObj) (s : State) :
    (∀ p, cwd_string M cwd = some p → process_cwd M cwd s = .ok () (s.cwd_set p)) ∧
    (cwd_string M cwd = none →
      ∃ e, process_cwd M cwd s = .error .goto_error (s.failing e)) := by
  have hdup : ∀ obj, (∀ p, (dup M .cwd obj).map some = some p → (do
        let p ← pyuv_dup_strobj M obj .cwd
        set_cwd p : Run Unit) s = .ok () (s.cwd_set p)) ∧
      ((dup M .cwd obj).map some = none → ∃ e, (do
        let p ← pyuv_dup_strobj M obj .cwd
        set_cwd p : Run Unit) s = .error .goto_error (s.failing e)) := by
    intro obj
    obtain ⟨hsome, hnone⟩ := (pyuv_dup_strobj.gives (M := M) obj .cwd).bind set_cwd s
    refine ⟨fun p hp => ?_, fun h => hnone (Option.map_eq_none_iff.mp h)⟩
    obtain ⟨q, hq, rfl⟩ := Option.map_eq_some_iff.mp hp
    exact hsome q hq
  cases cwd with
  | None =>
    refine ⟨fun p hp => ?_, (fun h => nomatch h)⟩
    obtain rfl := Option.some.inj hp
    rfl
  | text t => exact hdup (.text t)
  | other => exact hdup .other

/-! ## What is in memory before -/

/-- Whether there is an entry does not depend on it. -/
theorem entry_eq_none_iff (prior prior' : Prior) (i : Nat) (key value : PyObj) :
    entry M prior i key value = none ↔ entry M prior' i key value = none := by
  unfold entry
  cases encoded M key with
  | none => rfl
  | some k =>
    cases encoded M value with
    | none => rfl
    | some v =>
      rw [Option.bind_some, Option.bind_some, Option.bind_some, Option.bind_some]
      cases allocates M (.entry i) (k.length + v.length + 2) <;> simp

theorem env_filled_done_iff {entries : List (PyObj × PyObj)} :
    (∃ es, env_filled M prior entries = some (.done es)) ↔
      allocates M .envp (8 * (entries.length + 1)) = true ∧
        ∀ i e, entries[i]? = some e → entry M prior i e.1 e.2 ≠ none := by
  have hdone : (∃ es, fill (entries.mapIdx fun i e => entry M prior i e.1 e.2)
      (entries.length + 1) = .done es) ↔
      ∀ i e, entries[i]? = some e → entry M prior i e.1 e.2 ≠ none := by
    simp only [fill_eq_done_iff, List.length_mapIdx, Nat.lt_add_one, and_true,
      exists_map_some_iff, List.mem_mapIdx, not_exists]
    constructor
    · intro h i e he hnone
      obtain ⟨hi, rfl⟩ := List.getElem?_eq_some_iff.mp he
      exact h i hi hnone
    · intro h i hi hnone
      exact h i _ (List.getElem?_eq_getElem hi) hnone
  unfold env_filled
  by_cases hall : allocates M .envp (8 * (entries.length + 1)) = true
  · rw [if_pos hall, ← hdone]
    simp [hall]
  · rw [if_neg hall]
    simp [hall]

theorem env_strings_ne_none_iff (prior prior' : Prior) (env : Option Dict) :
    env_strings M prior env ≠ none ↔ env_strings M prior' env ≠ none := by
  cases env with
  | none => rfl
  | some d =>
    have hiff : ∀ q : Prior, 0 < d.entries.length →
        (env_strings M q (some d) ≠ none ↔ ∃ es, env_filled M q d.entries = some (.done es)) := by
      intro q hlen
      unfold env_strings
      dsimp only
      rw [if_pos hlen]
      cases env_filled M q d.entries with
      | none => simp
      | some f => cases f <;> simp
    by_cases hlen : 0 < d.entries.length
    · rw [hiff prior hlen, hiff prior' hlen, env_filled_done_iff, env_filled_done_iff]
      simp only [ne_eq, entry_eq_none_iff prior prior']
    · have hnone : ∀ q : Prior, env_strings M q (some d) = some none := by
        intro q
        unfold env_strings
        dsimp only
        rw [if_neg hlen]
      rw [hnone prior, hnone prior']

theorem prepared_ne_none_iff (prior prior' : Prior) (vars : Vars) :
    prepared M prior vars ≠ none ↔ prepared M prior' vars ≠ none := by
  unfold prepared
  cases args_filled M vars.arguments with
  | none => rfl
  | some f =>
    cases f with
    | failed as => rfl
    | overrun => rfl
    | done as =>
      have henv := env_strings_ne_none_iff (M := M) prior prior' vars.env
      dsimp only
      cases file_string M as vars.executable with
      | none => rfl
      | some file =>
        cases cwd_string M vars.cwd with
        | none => rfl
        | some cwd =>
          cases h : env_strings M prior vars.env <;> cases h' : env_strings M prior' vars.env
          · rfl
          · exact absurd h (henv.mpr (by simp [h']))
          · exact absurd h' (henv.mp (by simp [h]))
          · simp

end pyuv.spawn
