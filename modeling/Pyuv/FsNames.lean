-- The names that the OS supplies to a successful fs request (pyuv__process_fs_req in src/fs.c):
-- the entries of scandir, the targets of readlink and realpath. They are bytes, and the function
-- takes each for UTF-8. The buffers that it gives back are in FsRequests.
import Pyuv.FsRequests
import Pyuv.Indicator

set_option linter.style.nameCheck false

namespace pyuv.fs_names

open ends indicator
open fs_requests (uv_fs_t uv_dirent_t FsType PyVal FSRequest stat_to_pyobj)

/-! ## The completion function -/

/-- The memory there is: for the object of the result, and for how many entries of a list. -/
structure Memory where
  result_alloc : Bool
  dirent_alloc : Nat
  stat_float_times : Bool

/-- The same for the completion function as FsRequests has it. -/
def Memory.python (mem : Memory) : fs_requests.Python where
  result_alloc := mem.result_alloc
  dirent_alloc := mem.dirent_alloc
  decode := utf8.decode
  stat_float_times := mem.stat_float_times

variable (P : indicator.Python FSRequest) (mem : Memory)

/-- None for a NULL pointer. -/
def build_s (bytes : Option (List UInt8)) : Py FSRequest (Option PyVal) :=
  match bytes with
  | none => pure (some .None)
  | some bytes => do
    let text ← Py_BuildValue_s P bytes
    return text.map .str

/-- `if (!r)` -/
def or_None (r : Option PyVal) : Py FSRequest PyVal :=
  match r with
  | some r => pure r
  | none => do
    PyErr_Clear
    return .None

/-- A new object, while there is memory for it. -/
def allocated (r : PyVal) : Option PyVal := if mem.result_alloc then some r else none

/-- The loop over the entries. A name is stored as it comes, and the loop ends where there is no
memory for an entry. -/
def list_entries : Nat → List uv_dirent_t → Py FSRequest (List (Option (List Char) × Int))
  | _, [] => pure []
  | 0, _ :: _ => do
    PyErr_Clear
    return []
  | alloc + 1, ent :: ents => do
    let name ← Py_BuildValue_s P ent.name
    let rest ← list_entries alloc ents
    return (name, ent.type) :: rest

/-- The switch over the type. -/
def process_result (req : uv_fs_t) : Py FSRequest PyVal :=
  match req.fs_type with
  | .STAT | .LSTAT | .FSTAT =>
    or_None (allocated mem (.stat (stat_to_pyobj mem.python req.statbuf)))
  | .UNLINK | .MKDIR | .RMDIR | .RENAME | .CHMOD | .FCHMOD | .LINK | .SYMLINK | .CHOWN | .FCHOWN
  | .CLOSE | .FSYNC | .FDATASYNC | .FTRUNCATE | .UTIME | .FUTIME | .ACCESS => pure .None
  | .READLINK | .REALPATH => do
    let r ← build_s P req.ptr
    or_None r
  | .WRITE | .OPEN | .SENDFILE => or_None (allocated mem (.int req.result))
  | .READ => or_None (allocated mem (.bytes (req.base.take req.result.toNat)))
  | .SCANDIR =>
    if mem.result_alloc then do
      let entries ← list_entries P mem.dirent_alloc req.dirents
      return .dirents entries
    else or_None none
  | .unknown => throw .crash

/-- The user's callback, where there is one. -/
def deliver (callback : Bool) (done : FSRequest) : Py FSRequest Unit :=
  if callback then call_back P ([done].map some) else pure ()

def pyuv__process_fs_req (req : uv_fs_t) (callback : Bool) : Py FSRequest FSRequest := do
  let path ← build_s P req.path
  let (error, result) ←
    if req.result < 0 then pure (PyVal.int req.result, PyVal.None)
    else Prod.mk PyVal.None <$> process_result P mem req
  let done : FSRequest := { path, result, error }
  deliver P callback done
  return done

/-! ## The contract -/

/-- A request as libuv completes it when it succeeds: the path is that of a Python string, and
where a target is asked for, there is one. -/
structure Success where
  req : uv_fs_t
  succeeded : 0 ≤ req.result
  known : req.fs_type ≠ .unknown
  path : ∀ bytes, req.path = some bytes → ∃ text, utf8.encode text = bytes
  target : req.fs_type = .READLINK ∨ req.fs_type = .REALPATH → req.ptr ≠ none

/-- The name of an entry is there, and it is the text of the bytes where these are one. -/
def Names (bytes : List UInt8) (name : Option (List Char)) : Prop :=
  name ≠ none ∧ ∀ text, utf8.encode text = bytes → name = some text

/-- The names in the result are those that the system gave. -/
structure Faithful (req : uv_fs_t) (done : FSRequest) : Prop where
  entries : req.fs_type = .SCANDIR → ∃ entries, done.result = .dirents entries ∧
    List.Forall₂ (fun ent e => Names ent.name e.1 ∧ e.2 = ent.type) req.dirents entries
  target : req.fs_type = .READLINK ∨ req.fs_type = .REALPATH → done.error ≠ .None ∨
    done.result ≠ .None ∧
      ∀ text, req.ptr = some (utf8.encode text) → done.result = .str text

/-- The request has what it should, and nothing is pending for the callback and at the end. -/
def Proper (req : uv_fs_t) (callback : Bool) (s : Interp FSRequest) : Prop :=
  match pyuv__process_fs_req P mem req callback s with
  | .ok done t => Faithful req done ∧ t.pending = none ∧
      t.calls = s.calls ++ if callback then [⟨[done], none⟩] else []
  | .error e t => e = .exited ∧
      ∃ done, Faithful req done ∧ t.calls = s.calls ++ [⟨[done], none⟩]

/-- The names are UTF-8, and there is memory for the list of them. -/
def fits (req : uv_fs_t) : Prop :=
  match req.fs_type with
  | .SCANDIR => mem.result_alloc = true ∧ req.dirents.length ≤ mem.dirent_alloc ∧
      ∀ ent ∈ req.dirents, ∃ text, utf8.encode text = ent.name
  | .READLINK | .REALPATH => ∀ target, req.ptr = some target → ∃ text, utf8.encode text = target
  | _ => True

/-! ## What the request is completed with -/

/-- The value of the switch, as FsRequests has it. -/
def value (req : uv_fs_t) : PyVal :=
  match req.fs_type with
  | .STAT | .LSTAT | .FSTAT =>
    fs_requests.or_None mem.python (.stat (stat_to_pyobj mem.python req.statbuf))
  | .READLINK | .REALPATH => (fs_requests.build_s mem.python req.ptr).getD .None
  | .WRITE | .OPEN | .SENDFILE => fs_requests.or_None mem.python (.int req.result)
  | .READ => fs_requests.or_None mem.python (.bytes (req.base.take req.result.toNat))
  | .SCANDIR => fs_requests.or_None mem.python
      (.dirents ((req.dirents.take mem.dirent_alloc).map (fs_requests.dirent_of mem.python)))
  | _ => .None

/-- The model that keeps account of the buffers completes a request with the same value. -/
theorem value_of_process_result {req : uv_fs_t} {L M : ledgers.Ledger fs_requests.Res} {v : PyVal}
    (h : fs_requests.process_result mem.python req L = some (v, M)) : v = value mem req := by
  unfold fs_requests.process_result at h
  unfold value
  cases hty : req.fs_type <;> rw [hty] at h
  case WRITE | READ =>
    obtain ⟨N, -, hN⟩ := Option.bind_eq_some_iff.mp h
    cases hN
    rfl
  case unknown => cases h
  all_goals
    cases h
    rfl

variable {P mem}

/-- One name. -/
theorem build_s.spec (mem : Memory) (bytes : Option (List UInt8)) (s : Interp FSRequest) :
    ∃ t, build_s P bytes s = .ok (fs_requests.build_s mem.python bytes) t ∧ t.calls = s.calls ∧
      (s.pending = none → (∀ b, bytes = some b → utf8.decode b ≠ none) → t.pending = none) := by
  cases bytes with
  | none => exact ⟨s, rfl, rfl, fun h _ => h⟩
  | some bytes =>
    cases hdecode : utf8.decode bytes with
    | some text =>
      have hvalue : fs_requests.build_s mem.python (some bytes) = some (.str text) := by
        change (utf8.decode bytes).map PyVal.str = _
        rw [hdecode]
        rfl
      rw [hvalue]
      exact ⟨s, bind_of_ok (Py_BuildValue_s_eq hdecode s), rfl, fun h _ => h⟩
    | none =>
      have hvalue : fs_requests.build_s mem.python (some bytes) = none := by
        change (utf8.decode bytes).map PyVal.str = _
        rw [hdecode]
        rfl
      rw [hvalue]
      exact ⟨refused P s, bind_of_ok (Py_BuildValue_s_null hdecode s), rfl,
        fun _ h => absurd hdecode (h bytes rfl)⟩

/-- A NULL that becomes None leaves the exception pending. -/
theorem or_None.spec (r : Option PyVal) (s : Interp FSRequest) :
    ∃ t, or_None r s = .ok (r.getD .None) t ∧ t.calls = s.calls ∧
      (s.pending = none → t.pending = none) := by
  cases r with
  | some r => exact ⟨s, rfl, rfl, id⟩
  | none => exact ⟨s.restore none, rfl, rfl, fun _ => rfl⟩

theorem allocated.spec (r : PyVal) :
    (allocated mem r).getD .None = fs_requests.or_None mem.python r := by
  unfold allocated fs_requests.or_None Memory.python
  cases mem.result_alloc <;> rfl

/-- The entries there is memory for. -/
theorem list_entries.spec (mem : Memory) (alloc : Nat) (ents : List uv_dirent_t)
    (s : Interp FSRequest) :
    ∃ t, list_entries P alloc ents s =
        .ok ((ents.take alloc).map (fs_requests.dirent_of mem.python)) t ∧
      t.calls = s.calls ∧
      (s.pending = none → (∀ ent ∈ ents, utf8.decode ent.name ≠ none) → t.pending = none) := by
  induction ents generalizing alloc s with
  | nil =>
    refine ⟨s, ?_, rfl, fun h _ => h⟩
    unfold list_entries
    rw [List.take_nil]
    rfl
  | cons ent ents ih =>
    cases alloc with
    | zero => exact ⟨s.restore none, rfl, rfl, fun _ _ => rfl⟩
    | succ alloc =>
      have hname : ∃ u, Py_BuildValue_s P ent.name s = .ok (utf8.decode ent.name) u ∧
          u.calls = s.calls ∧
          (s.pending = none → utf8.decode ent.name ≠ none → u.pending = none) := by
        cases hdecode : utf8.decode ent.name with
        | some text => exact ⟨s, Py_BuildValue_s_eq hdecode s, rfl, fun h _ => h⟩
        | none =>
          exact ⟨refused P s, Py_BuildValue_s_null hdecode s, rfl, fun _ h => absurd rfl h⟩
      obtain ⟨u, hu, hcalls, hpending⟩ := hname
      obtain ⟨t, ht, hcalls', hpending'⟩ := ih alloc u
      refine ⟨t, ?_, hcalls'.trans hcalls, fun hs hents => ?_⟩
      · unfold list_entries
        rw [bind_of_ok hu, bind_of_ok ht]
        rfl
      · apply hpending'
        · exact hpending hs (hents ent List.mem_cons_self)
        · exact fun e he => hents e (List.mem_cons_of_mem _ he)

theorem decode_ne_none_iff {bytes : List UInt8} :
    utf8.decode bytes ≠ none ↔ ∃ text, utf8.encode text = bytes := by
  rw [Option.ne_none_iff_exists']
  simp only [utf8.decode_eq_some_iff]

/-- The value does not depend on the state, and what is pending does not on more than the names. -/
theorem process_result.spec (mem : Memory) {req : uv_fs_t} (hknown : req.fs_type ≠ .unknown)
    (s : Interp FSRequest) :
    ∃ t, process_result P mem req s = .ok (value mem req) t ∧ t.calls = s.calls ∧
      (s.pending = none → fits mem req → t.pending = none) := by
  have halloc : ∀ r, ∃ t, or_None (allocated mem r) s =
      .ok (fs_requests.or_None mem.python r) t ∧ t.calls = s.calls ∧
        (s.pending = none → fits mem req → t.pending = none) := by
    intro r
    obtain ⟨t, ht, hcalls, hpending⟩ := or_None.spec (allocated mem r) s
    rw [allocated.spec] at ht
    exact ⟨t, ht, hcalls, fun hs _ => hpending hs⟩
  unfold process_result value
  cases hty : req.fs_type
  case STAT | LSTAT | FSTAT | WRITE | OPEN | SENDFILE | READ => exact halloc _
  case READLINK | REALPATH =>
    obtain ⟨u, hu, hcalls, hpending⟩ := build_s.spec (P := P) mem req.ptr s
    obtain ⟨t, ht, hcalls', hpending'⟩ := or_None.spec (fs_requests.build_s mem.python req.ptr) u
    refine ⟨t, (bind_of_ok hu).trans ht, hcalls'.trans hcalls, fun hs hfit => ?_⟩
    apply hpending' (hpending hs _)
    intro b hb
    unfold fits at hfit
    rw [hty] at hfit
    exact decode_ne_none_iff.mpr (hfit b hb)
  case SCANDIR =>
    dsimp only
    by_cases hmem : mem.result_alloc = true
    · obtain ⟨t, ht, hcalls, hpending⟩ :=
        list_entries.spec (P := P) mem mem.dirent_alloc req.dirents s
      rw [if_pos hmem]
      refine ⟨t, ?_, hcalls, fun hs hfit => ?_⟩
      · rw [bind_of_ok ht]
        unfold fs_requests.or_None Memory.python
        rw [hmem]
        rfl
      · apply hpending hs
        intro ent hent
        unfold fits at hfit
        rw [hty] at hfit
        exact decode_ne_none_iff.mpr (hfit.2.2 ent hent)
    · rw [if_neg hmem]
      refine ⟨s.restore none, ?_, rfl, fun _ _ => rfl⟩
      unfold fs_requests.or_None Memory.python
      rw [if_neg hmem]
      rfl
  case unknown => exact absurd hty hknown
  all_goals exact ⟨s, rfl, rfl, fun hs _ => hs⟩

/-- What a request is completed with when it succeeds. -/
def completed (mem : Memory) (req : uv_fs_t) : FSRequest where
  path := fs_requests.build_s mem.python req.path
  result := value mem req
  error := .None

/-- The callback gets the value that was made. -/
theorem pyuv__process_fs_req.spec (mem : Memory) (r : Success) (callback : Bool)
    (s : Interp FSRequest) :
    ∃ t, pyuv__process_fs_req P mem r.req callback s =
        (deliver P callback (completed mem r.req) >>= fun _ => pure (completed mem r.req)) t ∧
      t.calls = s.calls ∧ (s.pending = none → fits mem r.req → t.pending = none) := by
  obtain ⟨u, hu, hcalls, hpending⟩ := build_s.spec (P := P) mem r.req.path s
  obtain ⟨t, ht, hcalls', hpending'⟩ := process_result.spec (P := P) mem r.known u
  refine ⟨t, ?_, hcalls'.trans hcalls, fun hs hfit => ?_⟩
  · unfold pyuv__process_fs_req
    rw [bind_of_ok hu, if_neg (not_lt.mpr r.succeeded)]
    have hpair : (Prod.mk PyVal.None <$> process_result P mem r.req : Py FSRequest _) u =
        .ok (PyVal.None, value mem r.req) t := bind_of_ok ht
    rw [bind_of_ok hpair]
    rfl
  · apply hpending' _ hfit
    apply hpending hs
    intro b hb
    exact decode_ne_none_iff.mpr (r.path b hb)

theorem names_of_encode {bytes : List UInt8} {text : List Char}
    (h : utf8.encode text = bytes) : Names bytes (utf8.decode bytes) := by
  rw [utf8.decode_eq_some_iff.mpr h]
  refine ⟨Option.some_ne_none text, fun text' htext' => ?_⟩
  rw [utf8.encode_injective (h.trans htext'.symm)]

theorem faithful_of_fits {r : Success} (h : fits mem r.req) :
    Faithful r.req (completed mem r.req) where
  entries := by
    intro hty
    unfold fits at h
    rw [hty] at h
    obtain ⟨halloc, hlen, hnames⟩ := h
    refine ⟨r.req.dirents.map (fs_requests.dirent_of mem.python), ?_, ?_⟩
    · unfold completed value
      rw [hty]
      dsimp only
      rw [List.take_of_length_le hlen]
      unfold fs_requests.or_None Memory.python
      rw [halloc]
      rfl
    · rw [List.forall₂_map_right_iff, List.forall₂_same]
      intro ent hent
      obtain ⟨text, htext⟩ := hnames ent hent
      exact ⟨names_of_encode htext, rfl⟩
  target := by
    intro hty
    right
    obtain ⟨target, htarget⟩ := Option.ne_none_iff_exists'.mp (r.target hty)
    have hfit : ∃ text, utf8.encode text = target := by
      unfold fits at h
      rcases hty with hty | hty
      all_goals
        rw [hty] at h
        exact h target htarget
    obtain ⟨text, rfl⟩ := hfit
    have hvalue : (completed mem r.req).result = .str text := by
      unfold completed value
      have hstr : (fs_requests.build_s mem.python r.req.ptr).getD .None = .str text := by
        rw [htarget]
        change ((utf8.decode (utf8.encode text)).map PyVal.str).getD .None = _
        rw [utf8.decode_encode]
        rfl
      rcases hty with hty | hty
      all_goals
        rw [hty]
        exact hstr
    rw [hvalue]
    refine ⟨(fun h => nomatch h), fun text' htext' => ?_⟩
    rw [htarget] at htext'
    rw [utf8.encode_injective (Option.some.inj htext')]

theorem fits_of_faithful {r : Success} (h : Faithful r.req (completed mem r.req)) :
    fits mem r.req := by
  have htarget : r.req.fs_type = .READLINK ∨ r.req.fs_type = .REALPATH →
      ∀ target, r.req.ptr = some target → ∃ text, utf8.encode text = target := by
    intro hty target hptr
    rcases h.target hty with herror | ⟨hresult, -⟩
    · exact absurd rfl herror
    · rw [← decode_ne_none_iff]
      intro hdecode
      apply hresult
      have hnone : (fs_requests.build_s mem.python r.req.ptr).getD .None = .None := by
        rw [hptr]
        change ((utf8.decode target).map PyVal.str).getD .None = _
        rw [hdecode]
        rfl
      unfold completed value
      rcases hty with hty | hty
      all_goals
        rw [hty]
        exact hnone
  unfold fits
  cases hty : r.req.fs_type
  case READLINK => exact htarget (.inl hty)
  case REALPATH => exact htarget (.inr hty)
  case SCANDIR =>
    obtain ⟨entries, hresult, hall⟩ := h.entries hty
    have hvalue : fs_requests.or_None mem.python
        (.dirents ((r.req.dirents.take mem.dirent_alloc).map (fs_requests.dirent_of mem.python))) =
        .dirents entries := by
      rw [← hresult]
      unfold completed value
      rw [hty]
    have hif : (if mem.result_alloc then PyVal.dirents
        ((r.req.dirents.take mem.dirent_alloc).map (fs_requests.dirent_of mem.python))
        else .None) = .dirents entries := hvalue
    by_cases hmem : mem.result_alloc = true
    · rw [if_pos hmem] at hif
      injection hif with hentries
      rw [← hentries] at hall
      have hlen := hall.length_eq
      rw [List.length_map, List.length_take] at hlen
      have hle : r.req.dirents.length ≤ mem.dirent_alloc := by omega
      rw [List.take_of_length_le hle, List.forall₂_map_right_iff, List.forall₂_same] at hall
      refine ⟨hmem, hle, fun ent hent => ?_⟩
      exact decode_ne_none_iff.mp (hall ent hent).1.1
    · rw [if_neg hmem] at hif
      cases hif
  all_goals trivial

/-- Which successful requests come to the user with the names that the OS has supplied. -/
theorem names_are_delivered_iff (P : indicator.Python FSRequest) (mem : Memory) (r : Success)
    (callback : Bool) :
    (∀ s, s.pending = none → Proper P mem r.req callback s) ↔ fits mem r.req := by
  constructor
  · intro h
    let s : Interp FSRequest := ⟨none, fun _ => 0, [], []⟩
    have hproper := h s rfl
    unfold Proper at hproper
    obtain ⟨t, ht, hcalls, -⟩ := pyuv__process_fs_req.spec (P := P) mem r callback s
    rw [ht] at hproper
    cases callback with
    | false => exact fits_of_faithful hproper.1
    | true =>
      rcases call_back.spec (P := P) t ([completed mem r.req].map some) with
        ⟨u, hu, -, -⟩ | ⟨u, hu, hu'⟩
      · have hrun : deliver P true (completed mem r.req) t = .ok () u := hu
        rw [bind_of_ok hrun] at hproper
        exact fits_of_faithful hproper.1
      · have hrun : deliver P true (completed mem r.req) t = .error .exited u := hu
        rw [bind_of_error hrun] at hproper
        obtain ⟨-, done, hdone, htold⟩ := hproper
        rw [hu', hcalls, given_map_some] at htold
        have hlast := List.append_cancel_left htold
        injection hlast with hcall
        injection hcall with hargs
        injection hargs with heq
        rw [← heq] at hdone
        exact fits_of_faithful hdone
  · intro hfit s hs
    have hfaithful := faithful_of_fits hfit
    unfold Proper
    obtain ⟨t, ht, hcalls, hpending⟩ :=
      pyuv__process_fs_req.spec (P := P) mem r callback s
    have ht' := hpending hs hfit
    rw [ht]
    cases callback with
    | false => exact ⟨hfaithful, ht', by simpa using hcalls⟩
    | true =>
      rcases call_back.spec (P := P) t ([completed mem r.req].map some) with
        ⟨u, hu, hu', hclear⟩ | ⟨u, hu, hu'⟩
      · have hrun : deliver P true (completed mem r.req) t = .ok () u := hu
        rw [bind_of_ok hrun]
        rw [given_map_some, hcalls, ht'] at hu'
        exact ⟨hfaithful, hclear ht', hu'⟩
      · have hrun : deliver P true (completed mem r.req) t = .error .exited u := hu
        rw [bind_of_error hrun]
        rw [given_map_some, hcalls, ht'] at hu'
        exact ⟨rfl, _, hfaithful, hu'⟩

/-- A link whose target is the byte 0xff: the result and the error are None. -/
theorem a_link_to_latin1_is_lost : ¬∀ (P : indicator.Python FSRequest) (mem : Memory) (r : Success)
    (callback : Bool) (s : Interp FSRequest), s.pending = none →
      Proper P mem r.req callback s := by
  let P : indicator.Python FSRequest :=
    { is_AttributeError _ := false, is_SystemExit _ := false, excepthook := .returned Py_None
      normalize := id, hook _ _ _ _ := .returned Py_None, callee _ _ := .returned Py_None
      decode_error := ⟨1, none, none⟩ }
  let mem : Memory := ⟨true, 0, false⟩
  let req : uv_fs_t :=
    { fs_type := .READLINK, result := 0, path := none
      statbuf := ⟨0, 0, 0, 0, 0, 0, 0, ⟨0, 0⟩, ⟨0, 0⟩, ⟨0, 0⟩, 0, 0, 0, 0, 0, ⟨0, 0⟩⟩
      ptr := some [0xff], dirents := [], base := [] }
  let r : Success :=
    { req, succeeded := le_refl 0, known := (by decide), path := (by simp [req])
      target := (by simp [req]) }
  intro h
  have hproper := h P mem r false ⟨none, fun _ => 0, [], []⟩ rfl
  unfold Proper at hproper
  obtain ⟨t, ht, -⟩ :=
    pyuv__process_fs_req.spec (P := P) mem r false ⟨none, fun _ => 0, [], []⟩
  rw [ht] at hproper
  obtain ⟨text, htext⟩ := fits_of_faithful hproper.1 [0xff] rfl
  have hdecode : utf8.decode [0xff] = none := by decide
  rw [utf8.decode_eq_some_iff.mpr htext] at hdecode
  cases hdecode

end pyuv.fs_names
