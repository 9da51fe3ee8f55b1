-- Requests of the thread pool over every run: each is completed once, and a cancelled
-- one never runs. A request that is cancelled, and again in its own completion
-- callback, goes around a second time.
import Pyuv.ThreadPool

set_option linter.style.nameCheck false

namespace pyuv.threadpool

open rings

/-! ## The contract -/

/-- The error that a cancelled request is completed with. -/
def cancel_errorno : Kind → Int
  | .FSRequest | .WorkRequest => UV_ECANCELED
  | .GAIRequest | .GNIRequest => UV_EAI_CANCELED

/-- What a cancelled request is completed with. -/
def canceled (kind : Kind) : Completion := ⟨UV_ECANCELED, cancel_errorno kind⟩

/-- Nothing is queued, worked on or drained. -/
def Quiet (s : Pool) : Prop :=
  s.mem.next .wq = .wq ∧ s.mem.next .loop_wq = .loop_wq ∧ s.executing = [] ∧ s.drains = []

/-- What the pool owes to its requests. -/
structure Kept (s : Pool) : Prop where
  once : ∀ i < s.submitted, (s.req i).done.length ≤ 1
  released : ∀ i < s.submitted, (s.req i).released ≤ 1 ∧
    (s.req i).refcnt = (s.req i).user + 1 - (s.req i).released
  -- no request is lost, and none keeps the reference of libuv
  settled : Quiet s → ∀ i < s.submitted, (s.req i).done.length = 1 ∧ (s.req i).released = 1
  late : ∀ call ∈ s.cancels, call.begun = true → call.result = false ∧ call.after = call.before
  cancelled : ∀ call ∈ s.cancels, call.result = true →
    (s.req call.req).worked = call.worked ∧
    ∀ d ∈ (s.req call.req).done, d = canceled (s.req call.req).kind

/-- `cancel` of a request that has been cancelled, from within its completion callback. -/
def cancels_again (s : Pool) : Act → Prop
  | .cancel i => some i ∈ s.drains ∧ (s.req i).work = .cancelled
  | _ => False

/-! ## The invariant -/

/-- The queues: that of the pool, that of the loop, and the local ones of uv__work_done. -/
def heads (depth : Nat) : Set Node :=
  {h | h = .wq ∨ h = .loop_wq ∨ ∃ k < depth, h = .local_wq k}

/-- Where a request is. -/
inductive Place where
  | queued (h : Node)
  | executing
  | running
  | returned
deriving DecidableEq

/-- The work was done once, or cancelled before it began. -/
def finished (r : Req) : Prop :=
  r.work = .NULL ∧ r.worked = 1 ∨ r.work = .cancelled ∧ r.worked = 0

/-- The callback has come once, with ECANCELED for a cancelled request. -/
def completed (r : Req) : Prop :=
  ∃ d, r.done = [d] ∧ (r.work = .cancelled → d = canceled r.kind)

/-- What the record of a request and its link are in each place. The link of a request
that is executed points to itself, that of a completed one never does. -/
def Fits (m : Mem Node) (i : Nat) (r : Req) : Place → Prop
  | .queued h => r.req_ptr = true ∧ r.done = [] ∧ r.released = 0 ∧
      (h = .wq ∧ r.work = .fn ∧ r.worked = 0 ∨ h ≠ .wq ∧ finished r)
  | .executing => r.req_ptr = true ∧ r.done = [] ∧ r.released = 0 ∧
      r.work = .fn ∧ r.worked = 1 ∧ m.next (.req i) = .req i
  | .running => r.req_ptr = true ∧ r.released = 0 ∧ finished r ∧ completed r ∧
      m.next (.req i) ≠ .req i
  | .returned => r.req_ptr = false ∧ r.released = 1 ∧ finished r ∧ completed r

/-- The rings hold the requests that are queued, each on the ring of its place. -/
def Content (H : Set Node) (n : Nat) (c : Node → List Node) (place : Nat → Place) : Prop :=
  ∀ h ∈ H, ∀ x, x ∈ c h ↔ ∃ i < n, x = .req i ∧ place i = .queued h

/-- Where each request is, and what has become of it there. -/
structure Holds (s : Pool) (c : Node → List Node) (place : Nat → Place) : Prop where
  rings : Rings s.mem (heads s.drains.length) c
  content : Content (heads s.drains.length) s.submitted c place
  queued : ∀ i < s.submitted, ∀ h, place i = .queued h → h ∈ heads s.drains.length
  executing : ∀ i, i ∈ s.executing ↔ i < s.submitted ∧ place i = .executing
  executing_nodup : s.executing.Nodup
  running : ∀ i, some i ∈ s.drains ↔ i < s.submitted ∧ place i = .running
  running_nodup : (s.drains.filterMap id).Nodup
  fits : ∀ i < s.submitted, Fits s.mem i (s.req i) (place i)
  refs : ∀ i < s.submitted, (s.req i).refcnt = (s.req i).user + 1 - (s.req i).released
  cancels : ∀ call ∈ s.cancels, call.req < s.submitted ∧
    (call.begun = true → call.result = false ∧ call.after = call.before) ∧
    (call.result = true → (s.req call.req).work = .cancelled ∧ call.worked = 0)

/-- Such contents and places exist. -/
def Inv (s : Pool) : Prop := ∃ c place, Holds s c place

section

variable {s t : Pool} {c : Node → List Node} {place : Nat → Place} {i n : Nat} {h : Node}
  {H : Set Node} {p : Place} {r : Req} {m m' : Mem Node}

theorem req_not_head (i depth : Nat) : .req i ∉ heads depth := by
  simp [heads]

theorem wq_head (depth : Nat) : .wq ∈ heads depth := by
  simp [heads]

theorem loop_wq_head (depth : Nat) : .loop_wq ∈ heads depth := by
  simp [heads]

/-! ## What the invariant says of the contract -/

theorem Fits.done_le (hf : Fits m i r p) : r.done.length ≤ 1 := by
  cases p with
  | queued h => simp [hf.2.1]
  | executing => simp [hf.2.1]
  | running =>
    obtain ⟨d, hd, -⟩ := hf.2.2.2.1
    simp [hd]
  | returned =>
    obtain ⟨d, hd, -⟩ := hf.2.2.2
    simp [hd]

theorem Fits.released_le (hf : Fits m i r p) : r.released ≤ 1 := by
  cases p with
  | queued h => simp [hf.2.2.1]
  | executing => simp [hf.2.2.1]
  | running => simp [hf.2.1]
  | returned => simp [hf.2.1]

/-- A cancelled request has not been worked on, and its completion says so. -/
theorem Fits.of_cancelled (hf : Fits m i r p) (hw : r.work = .cancelled) :
    r.worked = 0 ∧ ∀ d ∈ r.done, d = canceled r.kind := by
  have hfinished : ∀ {r : Req}, r.work = .cancelled → finished r → r.worked = 0 := by
    intro r hw hf
    rcases hf with ⟨hnull, -⟩ | ⟨-, hworked⟩
    · simp [hw] at hnull
    · exact hworked
  have hcompleted : ∀ {r : Req}, r.work = .cancelled → completed r →
      ∀ d ∈ r.done, d = canceled r.kind := by
    intro r hw hc d hd
    obtain ⟨e, he, hcancel⟩ := hc
    rw [he, List.mem_singleton] at hd
    exact hd ▸ hcancel hw
  cases p with
  | queued h =>
    obtain ⟨-, hdone, -, ⟨-, hfn, -⟩ | ⟨-, hfin⟩⟩ := hf
    · simp [hw] at hfn
    · exact ⟨hfinished hw hfin, by simp [hdone]⟩
  | executing => simp [Fits, hw] at hf
  | running => exact ⟨hfinished hw hf.2.2.1, hcompleted hw hf.2.2.2.1⟩
  | returned => exact ⟨hfinished hw hf.2.2.1, hcompleted hw hf.2.2.2⟩

/-- Once nothing is under way, every request has returned. -/
theorem Holds.returned (hs : Holds s c place) (hq : Quiet s) (hi : i < s.submitted) :
    place i = .returned := by
  obtain ⟨hwq, hloop, hexec, hdrains⟩ := hq
  cases hp : place i with
  | queued h =>
    have hhead : h ∈ heads s.drains.length := hs.queued i hi h hp
    have hmem : .req i ∈ c h := (hs.content h hhead _).mpr ⟨i, hi, rfl, hp⟩
    have hempty : s.mem.next h = h := by
      rcases hhead with rfl | rfl | ⟨k, hk, rfl⟩
      · exact hwq
      · exact hloop
      · simp [hdrains] at hk
    rw [(hs.rings.empty_iff hhead).mp hempty] at hmem
    simp at hmem
  | executing =>
    have hmem := (hs.executing i).mpr ⟨hi, hp⟩
    simp [hexec] at hmem
  | running =>
    have hmem := (hs.running i).mpr ⟨hi, hp⟩
    simp [hdrains] at hmem
  | returned => rfl

theorem Holds.kept (hs : Holds s c place) : Kept s where
  once i hi := (hs.fits i hi).done_le
  released i hi := ⟨(hs.fits i hi).released_le, hs.refs i hi⟩
  settled hq i hi := by
    have hfits := hs.fits i hi
    rw [hs.returned hq hi] at hfits
    obtain ⟨d, hd, -⟩ := hfits.2.2.2
    exact ⟨by simp [hd], hfits.2.1⟩
  late call hcall := (hs.cancels call hcall).2.1
  cancelled call hcall hresult := by
    obtain ⟨hlt, -, hwork⟩ := hs.cancels call hcall
    obtain ⟨hcancelled, hzero⟩ := hwork hresult
    obtain ⟨hworked, hdone⟩ := (hs.fits _ hlt).of_cancelled hcancelled
    exact ⟨hworked.trans hzero.symm, hdone⟩

/-! ## A request changes its place -/

theorem Fits.keeps (hf : Fits m i r p)
    (hnext : (∀ h, p ≠ .queued h) → m'.next (.req i) = m.next (.req i)) : Fits m' i r p := by
  cases p with
  | queued h => exact hf
  | executing => simpa [Fits, hnext (by simp)] using hf
  | running => simpa [Fits, hnext (by simp)] using hf
  | returned => exact hf

/-- The link of a request that is in no queue is on no ring. -/
theorem Content.free (hc : Content H n c place) (hreq : .req i ∉ H)
    (hp : i < n → ∀ h, place i ≠ .queued h) : Free H c (.req i) := by
  intro h hh hmem
  rcases List.mem_cons.mp hmem with rfl | hmem
  · exact hreq hh
  · obtain ⟨j, hj, heq, hplace⟩ := (hc h hh _).mp hmem
    obtain rfl : i = j := by simpa using heq
    exact hp hj h hplace

theorem Content.insert (hc : Content H n c place) (hp : i < n → ∀ h, place i ≠ .queued h)
    {n' : Nat} (hn : ∀ j, j < n' ↔ j < n ∨ j = i) :
    Content H n' (Function.update c h (c h ++ [.req i])) (Function.update place i (.queued h)) := by
  have hold : ∀ k ∈ H, ∀ x, x ∈ c k ↔
      ∃ j < n', x = .req j ∧ j ≠ i ∧ place j = .queued k := by
    intro k hk x
    rw [hc k hk x]
    constructor
    · rintro ⟨j, hj, hx, hplace⟩
      refine ⟨j, (hn j).mpr (.inl hj), hx, ?_, hplace⟩
      rintro rfl
      exact hp hj k hplace
    · rintro ⟨j, hj, hx, hne, hplace⟩
      exact ⟨j, ((hn j).mp hj).resolve_right hne, hx, hplace⟩
  intro k hk x
  constructor
  · intro hx
    by_cases hkh : k = h
    · subst hkh
      rw [Function.update_self, List.mem_append, List.mem_singleton] at hx
      rcases hx with hx | rfl
      · obtain ⟨j, hj, hxj, hne, hplace⟩ := (hold k hk x).mp hx
        exact ⟨j, hj, hxj, by rwa [Function.update_of_ne hne]⟩
      · exact ⟨i, (hn i).mpr (.inr rfl), rfl, by simp⟩
    · rw [Function.update_of_ne hkh] at hx
      obtain ⟨j, hj, hxj, hne, hplace⟩ := (hold k hk x).mp hx
      exact ⟨j, hj, hxj, by rwa [Function.update_of_ne hne]⟩
  · rintro ⟨j, hj, rfl, hplace⟩
    by_cases hji : j = i
    · subst hji
      obtain rfl : h = k := by simpa using hplace
      simp
    · rw [Function.update_of_ne hji] at hplace
      have hmem : .req j ∈ c k := (hold k hk _).mpr ⟨j, hj, rfl, hji, hplace⟩
      by_cases hkh : k = h
      · subst hkh
        rw [Function.update_self]
        exact List.mem_append_left _ hmem
      · rwa [Function.update_of_ne hkh]

theorem Content.remove (hc : Content H n c place) (hplace : place i = .queued h)
    (hnodup : (c h).Nodup) (hp : ∀ k, p ≠ .queued k) :
    Content H n (Function.update c h ((c h).erase (.req i))) (Function.update place i p) := by
  intro k hk x
  have hiff : (∃ j < n, x = .req j ∧ Function.update place i p j = .queued k) ↔
      x ≠ .req i ∧ x ∈ c k := by
    rw [hc k hk x]
    constructor
    · rintro ⟨j, hj, rfl, hj'⟩
      by_cases hji : j = i
      · subst hji
        exact absurd hj' (by simpa using hp k)
      · rw [Function.update_of_ne hji] at hj'
        exact ⟨by simpa using hji, j, hj, rfl, hj'⟩
    · rintro ⟨hne, j, hj, rfl, hj'⟩
      have hji : j ≠ i := by simpa using hne
      exact ⟨j, hj, rfl, by rwa [Function.update_of_ne hji]⟩
  rw [hiff]
  by_cases hkh : k = h
  · subst hkh
    rw [Function.update_self, hnodup.mem_erase_iff]
  · rw [Function.update_of_ne hkh]
    refine ⟨fun hx => ⟨?_, hx⟩, fun hx => hx.2⟩
    rintro rfl
    obtain ⟨j, -, heq, hj⟩ := (hc k hk _).mp hx
    obtain rfl : i = j := by simpa using heq
    rw [hplace] at hj
    exact hkh (by simpa using hj.symm)

/-- The request `i` changes its record and its place, and all others keep theirs. -/
theorem Holds.change {c' : Node → List Node} (hs : Holds s c place)
    (hreq : t.req = Function.update s.req i r) (hcancels : t.cancels = s.cancels)
    (hdepth : t.drains.length = s.drains.length)
    (hn : ∀ j, j < t.submitted ↔ j < s.submitted ∨ j = i)
    (hrings : Rings t.mem (heads s.drains.length) c')
    (hcontent : Content (heads s.drains.length) t.submitted c' (Function.update place i p))
    (hqueued : ∀ h, p = .queued h → h ∈ heads s.drains.length)
    (hexec : ∀ j, j ∈ t.executing ↔ if j = i then p = .executing else j ∈ s.executing)
    (hexec_nodup : t.executing.Nodup)
    (hrun : ∀ j, some j ∈ t.drains ↔ if j = i then p = .running else some j ∈ s.drains)
    (hrun_nodup : (t.drains.filterMap id).Nodup)
    (hkeeps : ∀ j < s.submitted, j ≠ i → Free (heads s.drains.length) c (.req j) →
      t.mem.next (.req j) = s.mem.next (.req j))
    (hfit : Fits t.mem i r p) (href : r.refcnt = r.user + 1 - r.released)
    (hwork : i < s.submitted → (s.req i).work = .cancelled → r.work = .cancelled) :
    Holds t c' (Function.update place i p) := by
  have hold : ∀ j, j ≠ i → j < t.submitted → j < s.submitted :=
    fun j hji hj => ((hn j).mp hj).resolve_right hji
  have hi : i < t.submitted := (hn i).mpr (.inr rfl)
  refine ⟨hdepth ▸ hrings, hdepth ▸ hcontent, ?_, ?_, hexec_nodup, ?_, hrun_nodup, ?_, ?_, ?_⟩
  · intro j hj h hplace
    rw [hdepth]
    by_cases hji : j = i
    · subst hji
      exact hqueued h (by simpa using hplace)
    · rw [Function.update_of_ne hji] at hplace
      exact hs.queued j (hold j hji hj) h hplace
  · intro j
    rw [hexec j]
    by_cases hji : j = i
    · subst hji
      simp [hi]
    · rw [if_neg hji, Function.update_of_ne hji, hs.executing j, hn j]
      simp [hji]
  · intro j
    rw [hrun j]
    by_cases hji : j = i
    · subst hji
      simp [hi]
    · rw [if_neg hji, Function.update_of_ne hji, hs.running j, hn j]
      simp [hji]
  · intro j hj
    by_cases hji : j = i
    · subst hji
      simpa [hreq] using hfit
    · rw [hreq, Function.update_of_ne hji, Function.update_of_ne hji]
      have hj' := hold j hji hj
      refine (hs.fits j hj').keeps (fun hout => hkeeps j hj' hji ?_)
      exact hs.content.free (req_not_head j _) (fun _ => hout)
  · intro j hj
    by_cases hji : j = i
    · subst hji
      simpa [hreq] using href
    · rw [hreq, Function.update_of_ne hji]
      exact hs.refs j (hold j hji hj)
  · intro call hcall
    rw [hcancels] at hcall
    obtain ⟨hlt, hlate, hresult⟩ := hs.cancels call hcall
    refine ⟨(hn _).mpr (.inl hlt), hlate, fun htrue => ?_⟩
    obtain ⟨hcancelled, hzero⟩ := hresult htrue
    refine ⟨?_, hzero⟩
    by_cases hji : call.req = i
    · rw [hreq, hji, Function.update_self]
      exact hwork (hji ▸ hlt) (hji ▸ hcancelled)
    · rwa [hreq, Function.update_of_ne hji]

theorem Holds.free (hs : Holds s c place) (hp : i < s.submitted → ∀ h, place i ≠ .queued h) :
    Free (heads s.drains.length) c (.req i) :=
  hs.content.free (req_not_head i _) hp

theorem Holds.same_executing (hs : Holds s c place) (hi : i < s.submitted → place i ≠ .executing)
    (hp : p ≠ .executing) :
    ∀ j, j ∈ s.executing ↔ if j = i then p = .executing else j ∈ s.executing := by
  intro j
  by_cases hji : j = i
  · subst hji
    simp only [if_true, hp, iff_false, hs.executing j, not_and]
    exact hi
  · simp [hji]

theorem Holds.same_running (hs : Holds s c place) (hi : i < s.submitted → place i ≠ .running)
    (hp : p ≠ .running) :
    ∀ j, some j ∈ s.drains ↔ if j = i then p = .running else some j ∈ s.drains := by
  intro j
  by_cases hji : j = i
  · subst hji
    simp only [if_true, hp, iff_false, hs.running j, not_and]
    exact hi
  · simp [hji]

/-- What is at the head of a queue is a request that has its place there. -/
theorem Holds.of_head (hs : Holds s c place) (hh : h ∈ heads s.drains.length)
    (hnext : s.mem.next h = .req i) :
    i < s.submitted ∧ place i = .queued h ∧ .req i ∈ c h := by
  have hne : s.mem.next h ≠ h := by
    rw [hnext]
    rintro rfl
    exact req_not_head i _ hh
  have hmem := hs.rings.next_mem hh hne
  rw [hnext] at hmem
  obtain ⟨j, hj, heq, hplace⟩ := (hs.content h hh _).mp hmem
  obtain rfl : i = j := by simpa using heq
  exact ⟨hj, hplace, hmem⟩

theorem Holds.nodup (hs : Holds s c place) (hh : h ∈ heads s.drains.length) : (c h).Nodup :=
  (List.nodup_cons.mp (hs.rings.nodup h hh)).2

theorem same_submitted (hi : i < n) (j : Nat) : j < n ↔ j < n ∨ j = i :=
  ⟨.inl, fun hj => hj.elim id (fun heq => heq ▸ hi)⟩

theorem node_ne {j : Nat} (hji : j ≠ i) : Node.req j ≠ .req i := by simpa using hji

/-! ## Each step keeps the invariant -/

theorem submit_inv (hs : Inv s) (kind : Kind) : Inv (uv__work_submit s kind) := by
  obtain ⟨c, place, hs⟩ := hs
  have hout : ∀ q : Prop, s.submitted < s.submitted → q := fun _ hlt => absurd hlt (by simp)
  have hfree := hs.free (i := s.submitted) (fun hlt => hout _ hlt)
  have hwq := wq_head s.drains.length
  refine ⟨_, _, hs.change (p := .queued .wq) rfl rfl rfl ?_ (hs.rings.insert_tail hwq hfree)
    ?_ ?_ (hs.same_executing (fun hlt => hout _ hlt) (by simp)) hs.executing_nodup
    (hs.same_running (fun hlt => hout _ hlt) (by simp)) hs.running_nodup ?_ ?_ (by simp)
    (fun hlt => hout _ hlt)⟩
  · intro j
    simp only [uv__work_submit]
    omega
  · exact hs.content.insert (fun hlt => hout _ hlt) (fun j => by simp [uv__work_submit]; omega)
  · rintro h ⟨⟩
    exact hwq
  · intro j _ hji hj
    exact (insert_tail_keeps (hs.rings.ring _ hwq) (hj _ hwq) (node_ne hji)).1
  · simp [Fits]

theorem worker_take_inv {nthreads : Nat} (hs : Inv s) (hstep : worker_take nthreads s = some t) :
    Inv t := by
  obtain ⟨c, place, hs⟩ := hs
  unfold worker_take at hstep
  split at hstep
  · rename_i i hnext
    have hwq := wq_head s.drains.length
    obtain ⟨hi, hplace, hmem⟩ := hs.of_head hwq hnext
    have hfits := hs.fits i hi
    rw [hplace] at hfits
    obtain ⟨hptr, hdone, hreleased, ⟨-, hfn, hworked⟩ | ⟨hne, -⟩⟩ := hfits
    · dsimp only at hstep
      split at hstep
      · cases hstep
        have hremoved := hs.content.remove (p := .executing) hplace (hs.nodup hwq) (by simp)
        have hrings := hs.rings.remove hwq hmem
        have hfree : Free (heads s.drains.length) (Function.update c .wq ((c .wq).erase (.req i)))
            (.req i) := hremoved.free (req_not_head i _) (by simp)
        have hnot : i ∉ s.executing := by
          intro hin
          have hexecuting := ((hs.executing i).mp hin).2
          simp [hplace] at hexecuting
        refine ⟨_, _,
          hs.change rfl rfl rfl (same_submitted hi) (hrings.init hfree) hremoved (by simp)
          ?_ (List.nodup_cons.mpr ⟨hnot, hs.executing_nodup⟩)
          (hs.same_running (by simp [hplace]) (by simp)) hs.running_nodup ?_ ?_ (hs.refs i hi)
          (fun _ => id)⟩
        · intro j
          by_cases hji : j = i <;> simp [hji]
        · intro j _ hji hj
          have hkept := remove_keeps (hs.rings.ring _ hwq) (List.mem_cons_of_mem _ hmem) (hj _ hwq)
          exact (hkept.trans (init_keeps (node_ne hji))).1
        · simp [Fits, hptr, hdone, hreleased, hfn, hworked, init, Mem.set_next, Mem.set_prev]
      · cases hstep
    · simp at hne
  · cases hstep

theorem worker_finish_inv {result : Int} (hs : Inv s)
    (hstep : worker_finish s i result = some t) : Inv t := by
  obtain ⟨c, place, hs⟩ := hs
  unfold worker_finish at hstep
  split at hstep
  · rename_i hin
    cases hstep
    obtain ⟨hi, hplace⟩ := (hs.executing i).mp hin
    have hfits := hs.fits i hi
    rw [hplace] at hfits
    obtain ⟨hptr, hdone, hreleased, hfn, hworked, -⟩ := hfits
    have hloop := loop_wq_head s.drains.length
    have hfree := hs.free (i := i) (by simp [hplace])
    refine ⟨_, _, hs.change (p := .queued .loop_wq) rfl rfl rfl (same_submitted hi)
      (hs.rings.insert_tail hloop hfree)
      (hs.content.insert (by simp [hplace]) (same_submitted hi)) ?_ ?_
      (hs.executing_nodup.erase i) (hs.same_running (by simp [hplace]) (by simp))
      hs.running_nodup ?_ ?_ (hs.refs i hi) ?_⟩
    · rintro h ⟨⟩
      exact hloop
    · intro j
      rw [hs.executing_nodup.mem_erase_iff]
      by_cases hji : j = i <;> simp [hji]
    · intro j _ hji hj
      exact (insert_tail_keeps (hs.rings.ring _ hloop) (hj _ hloop) (node_ne hji)).1
    · simp [Fits, finished, hptr, hdone, hreleased, hworked]
    · simp [hfn]
  · cases hstep

theorem local_head {k depth : Nat} (hk : k < depth) : .local_wq k ∈ heads depth := by
  simp [heads, hk]

theorem heads_succ (depth : Nat) : heads (depth + 1) = insert (.local_wq depth) (heads depth) := by
  ext x
  simp only [heads, Set.mem_ofPred_eq, Set.mem_insert_iff]
  constructor
  · rintro (rfl | rfl | ⟨k, hk, rfl⟩)
    · simp
    · simp
    · by_cases hkd : k = depth
      · simp [hkd]
      · exact .inr (.inr (.inr ⟨k, by omega, rfl⟩))
  · rintro (rfl | rfl | rfl | ⟨k, hk, rfl⟩)
    · exact .inr (.inr ⟨depth, by omega, rfl⟩)
    · simp
    · simp
    · exact .inr (.inr ⟨k, by omega, rfl⟩)

/-- The finished requests go to the new queue all together. -/
def moved (depth : Nat) (place : Nat → Place) (j : Nat) : Place :=
  if place j = .queued .loop_wq then .queued (.local_wq depth) else place j

theorem local_not_head (depth : Nat) : .local_wq depth ∉ heads depth := by
  simp [heads]

theorem moved_eq_queued {depth j : Nat} :
    moved depth place j = .queued h ↔
      place j = .queued .loop_wq ∧ h = .local_wq depth ∨
      h ≠ .loop_wq ∧ place j = .queued h := by
  unfold moved
  split
  · rename_i hloop
    simp only [hloop, Place.queued.injEq, true_and]
    constructor
    · intro heq
      exact .inl heq.symm
    · rintro (heq | ⟨hne, heq⟩)
      · exact heq.symm
      · exact absurd heq.symm hne
  · rename_i hloop
    simp only [hloop, false_and, false_or]
    constructor
    · intro heq
      refine ⟨?_, heq⟩
      rintro rfl
      exact hloop heq
    · exact And.right

theorem Content.move {depth : Nat} (hc : Content (heads depth) n c place)
    (hout : ∀ j < n, place j ≠ .queued (.local_wq depth)) :
    Content (heads (depth + 1)) n
      (Function.update (Function.update c .loop_wq []) (.local_wq depth) (c .loop_wq))
      (moved depth place) := by
  intro k hk x
  simp only [moved_eq_queued]
  rw [heads_succ] at hk
  rcases hk with rfl | hk
  · rw [Function.update_self, hc .loop_wq (loop_wq_head depth)]
    constructor
    · rintro ⟨j, hj, hx, hplace⟩
      exact ⟨j, hj, hx, .inl ⟨hplace, rfl⟩⟩
    · rintro ⟨j, hj, hx, ⟨hplace, -⟩ | ⟨-, hplace⟩⟩
      · exact ⟨j, hj, hx, hplace⟩
      · exact absurd hplace (hout j hj)
  · have hkd : k ≠ .local_wq depth := fun heq => local_not_head depth (heq ▸ hk)
    rw [Function.update_of_ne hkd]
    by_cases hkl : k = .loop_wq
    · subst hkl
      simp
    · rw [Function.update_of_ne hkl, hc k hk]
      simp [hkd, hkl]

theorem uv__work_done_inv (hs : Inv s) (hstep : uv__work_done s = some t) : Inv t := by
  obtain ⟨c, place, hs⟩ := hs
  unfold uv__work_done at hstep
  split at hstep
  · cases hstep
  · cases hstep
    have hloop := loop_wq_head s.drains.length
    have hout : ∀ j < s.submitted, place j ≠ .queued (.local_wq s.drains.length) :=
      fun j hj hplace => local_not_head _ (hs.queued j hj _ hplace)
    have hfree : Free (heads s.drains.length) c (.local_wq s.drains.length) := by
      intro k hk hmem
      rcases List.mem_cons.mp hmem with rfl | hmem
      · exact local_not_head _ hk
      · obtain ⟨j, -, heq, -⟩ := (hs.content k hk _).mp hmem
        cases heq
    have hmoved : ∀ j, (∀ h, place j ≠ .queued h) → moved s.drains.length place j = place j := by
      intro j hj
      simp [moved, hj]
    refine ⟨_, moved s.drains.length place, ?_, hs.content.move hout, ?_, ?_, hs.executing_nodup,
      ?_, by simpa using hs.running_nodup, ?_, hs.refs, hs.cancels⟩
    · rw [List.length_cons, heads_succ]
      exact hs.rings.move hloop hfree
    · intro j hj h hplace
      rw [List.length_cons, heads_succ]
      rcases moved_eq_queued.mp hplace with ⟨-, rfl⟩ | ⟨-, hplace⟩
      · exact .inl rfl
      · exact .inr (hs.queued j hj h hplace)
    · intro j
      rw [hs.executing j]
      unfold moved
      split <;> simp_all
    · intro j
      rw [List.mem_cons]
      simp only [reduceCtorEq, false_or, hs.running j]
      unfold moved
      split <;> simp_all
    · intro j hj
      have hfits := hs.fits j hj
      by_cases hqueued : place j = .queued .loop_wq
      · rw [hqueued] at hfits
        simpa [moved, hqueued, Fits] using hfits
      · have hsame : moved s.drains.length place j = place j := by simp [moved, hqueued]
        rw [hsame]
        refine hfits.keeps (fun hnot => ?_)
        have hj' := hs.free (fun _ => hnot)
        exact (move_keeps (hs.rings.ring _ hloop) (hs.rings.nodup _ hloop) (hfree _ hloop)
          (hj' _ hloop) (by simp)).1

theorem w_done_work (r : Req) (err : Int) : (w_done r err).work = r.work := rfl

theorem errorno_of_cancelled (kind : Kind) (result : Int) :
    errorno_of kind result UV_ECANCELED = cancel_errorno kind := by
  cases kind <;> rfl

theorem work_done_next_inv (hs : Inv s) (hstep : work_done_next s = some t) : Inv t := by
  obtain ⟨c, place, hs⟩ := hs
  unfold work_done_next at hstep
  split at hstep
  · rename_i ds hds
    split at hstep
    · rename_i i hnext
      cases hstep
      have hdepth : s.drains.length = ds.length + 1 := by simp [hds]
      have hlocal : .local_wq ds.length ∈ heads s.drains.length := local_head (by omega)
      obtain ⟨hi, hplace, hmem⟩ := hs.of_head hlocal hnext
      have hfits := hs.fits i hi
      rw [hplace] at hfits
      obtain ⟨hptr, hdone, hreleased, ⟨hne, -⟩ | ⟨-, hfinished⟩⟩ := hfits
      · cases hne
      have hnot : some i ∉ s.drains := by
        intro hin
        have hrunning := ((hs.running i).mp hin).2
        simp [hplace] at hrunning
      refine ⟨_, _, hs.change (p := .running) rfl rfl (by simp [hds]) (same_submitted hi)
        (hs.rings.remove hlocal hmem)
        (hs.content.remove hplace (hs.nodup hlocal) (by simp)) (by simp)
        (hs.same_executing (by simp [hplace]) (by simp)) hs.executing_nodup ?_ ?_ ?_ ?_
        (hs.refs i hi) (fun _ => id)⟩
      · intro j
        simp only [hds, List.mem_cons]
        by_cases hji : j = i <;> simp [hji]
      · have hnodup := hs.running_nodup
        rw [hds] at hnodup hnot
        simp at hnodup hnot ⊢
        exact ⟨hnot, hnodup⟩
      · intro j _ hji hj
        exact (remove_keeps (hs.rings.ring _ hlocal) (List.mem_cons_of_mem _ hmem) (hj _ hlocal)).1
      · refine ⟨hptr, hreleased, hfinished, ?_, ?_⟩
        · refine ⟨_, by simp [w_done, hdone]; rfl, ?_⟩
          intro hcancelled
          rw [w_done_work] at hcancelled
          simp [canceled, hcancelled, w_done, errorno_of_cancelled]
        · have hne := hs.rings.next_ne hlocal hmem
          simpa [remove_next] using hne
    · cases hstep
  · cases hstep

theorem callback_return_inv (hs : Inv s) (hstep : callback_return s = some t) : Inv t := by
  obtain ⟨c, place, hs⟩ := hs
  unfold callback_return at hstep
  split at hstep
  · rename_i i ds hds
    cases hstep
    obtain ⟨hi, hplace⟩ := (hs.running i).mp (by simp [hds])
    have hfits := hs.fits i hi
    rw [hplace] at hfits
    obtain ⟨-, hreleased, hfinished, hcompleted, -⟩ := hfits
    have hnodup := hs.running_nodup
    rw [hds] at hnodup
    simp only [List.filterMap_cons, id, List.nodup_cons] at hnodup
    have hnot : some i ∉ ds := fun hin => hnodup.1 (List.mem_filterMap.mpr ⟨_, hin, rfl⟩)
    have hcontent : Content (heads s.drains.length) s.submitted c
        (Function.update place i .returned) := by
      intro k hk x
      rw [hs.content k hk x]
      refine exists_congr fun j => and_congr_right fun hj => and_congr_right fun _ => ?_
      by_cases hji : j = i
      · subst hji
        simp [hplace]
      · rw [Function.update_of_ne hji]
    refine ⟨_, _, hs.change (p := .returned) rfl rfl (by simp [hds]) (same_submitted hi)
      hs.rings hcontent (by simp) (hs.same_executing (by simp [hplace]) (by simp))
      hs.executing_nodup ?_ (by simpa using hnodup.2) (fun _ _ _ _ => rfl) ?_ ?_ (fun _ => id)⟩
    · intro j
      simp only [hds, List.mem_cons]
      by_cases hji : j = i
      · simp [hji, hnot]
      · simp [hji]
    · exact ⟨rfl, by simp [hreleased], hfinished, hcompleted⟩
    · have hrefs := hs.refs i hi
      simp only at hrefs ⊢
      omega
  · cases hstep

theorem work_done_end_inv (hs : Inv s) (hstep : work_done_end s = some t) : Inv t := by
  obtain ⟨c, place, hs⟩ := hs
  unfold work_done_end at hstep
  split at hstep
  · rename_i ds hds
    split at hstep
    · rename_i hempty
      cases hstep
      have hheads : heads s.drains.length = insert (.local_wq ds.length) (heads ds.length) := by
        rw [hds, List.length_cons, heads_succ]
      have hlocal : .local_wq ds.length ∈ heads s.drains.length := by simp [hheads]
      have hnil : c (.local_wq ds.length) = [] :=
        (hs.rings.empty_iff hlocal).mp (by simpa [empty] using hempty)
      have hrings := hs.rings
      have hcontent := hs.content
      rw [hheads] at hrings hcontent
      refine ⟨c, place, hrings.drop, fun k hk => hcontent k (.inr hk), ?_, hs.executing,
        hs.executing_nodup, ?_, ?_, hs.fits, hs.refs, hs.cancels⟩
      · intro j hj h hplace
        have hh := hs.queued j hj h hplace
        have hmem : .req j ∈ c h := (hs.content h hh _).mpr ⟨j, hj, rfl, hplace⟩
        rw [hheads] at hh
        rcases hh with rfl | hh
        · simp [hnil] at hmem
        · exact hh
      · intro j
        rw [← hs.running j, hds]
        simp
      · have hnodup := hs.running_nodup
        rw [hds] at hnodup
        simpa using hnodup
    · cases hstep
  · cases hstep

/-- Python code takes or drops references of its own. -/
theorem user_inv {refcnt : Int} {user : Nat} (hs : Inv s) (hi : i < s.submitted)
    (href : refcnt - user = (s.req i).refcnt - (s.req i).user)
    (ht : t = { s with
      req := Function.update s.req i { s.req i with refcnt := refcnt, user := user } }) :
    Inv t := by
  obtain ⟨c, place, hs⟩ := hs
  have hsame : Function.update place i (place i) = place := Function.update_eq_self i place
  subst ht
  refine ⟨c, _, hs.change (p := place i) rfl rfl rfl (same_submitted hi) hs.rings
    (by rw [hsame]; exact hs.content) (hs.queued i hi) ?_ hs.executing_nodup ?_ hs.running_nodup
    (fun _ _ _ _ => rfl) (hs.fits i hi) ?_ (fun _ => id)⟩
  · intro j
    by_cases hji : j = i
    · simp [hji, hs.executing i, hi]
    · simp [hji]
  · intro j
    by_cases hji : j = i
    · simp [hji, hs.running i, hi]
    · simp [hji]
  · have hrefs := hs.refs i hi
    simp only at hrefs ⊢
    omega

theorem user_incref_inv (hs : Inv s) (hstep : user_incref s i = some t) : Inv t := by
  simp only [user_incref] at hstep
  split at hstep
  · rename_i hguard
    cases hstep
    exact user_inv hs hguard.1 (by omega) rfl
  · cases hstep

theorem user_decref_inv (hs : Inv s) (hstep : user_decref s i = some t) : Inv t := by
  simp only [user_decref] at hstep
  split at hstep
  · rename_i hguard
    cases hstep
    exact user_inv hs hguard.1 (by omega) rfl
  · cases hstep

/-! ## Cancelling -/

/-- uv__work_cancel takes what is queued and not worked on yet, or cancelled before. -/
theorem uv__work_cancel_cases (s : Pool) (i : Nat) :
    (s.mem.next (.req i) ≠ .req i ∧ (s.req i).work ≠ .NULL ∧
      uv__work_cancel s i = (0, { s with
        mem := insert_tail .loop_wq (.req i) (remove (.req i) s.mem)
        req := Function.update s.req i { s.req i with work := .cancelled } })) ∨
    ((s.mem.next (.req i) = .req i ∨ (s.req i).work = .NULL) ∧
      uv__work_cancel s i = (UV_EBUSY, s)) := by
  by_cases hself : s.mem.next (.req i) = .req i <;> by_cases hnull : (s.req i).work = .NULL <;>
    simp [uv__work_cancel, empty, hself, hnull]

/-- What the place of a request makes of Request_func_cancel. -/
theorem Holds.cancel_false (hs : Holds s c place) (hi : i < s.submitted)
    (hout : ∀ h, place i ≠ .queued h)
    (hagain : ¬cancels_again s (.cancel i)) : Request_func_cancel s i = (false, s) := by
  have hfits := hs.fits i hi
  have hbusy : s.mem.next (.req i) = .req i ∨ (s.req i).work = .NULL →
      Request_func_cancel s i = (false, s) := by
    intro hrefused
    unfold Request_func_cancel
    rcases uv__work_cancel_cases s i with ⟨hne, hwork, -⟩ | ⟨-, heq⟩
    · tauto
    · split
      · simp [heq, UV_EBUSY]
      · rfl
  cases hp : place i with
  | queued h => exact absurd hp (hout h)
  | executing =>
    rw [hp] at hfits
    exact hbusy (.inl hfits.2.2.2.2.2)
  | running =>
    rw [hp] at hfits
    have hrunning : some i ∈ s.drains := (hs.running i).mpr ⟨hi, hp⟩
    rcases hfits.2.2.1 with ⟨hnull, -⟩ | ⟨hcancelled, -⟩
    · exact hbusy (.inr hnull)
    · exact absurd ⟨hrunning, hcancelled⟩ hagain
  | returned =>
    rw [hp] at hfits
    unfold Request_func_cancel
    rw [if_neg (by simp [hfits.1])]

/-- A request that is queued goes to the finished ones, unless its work is done. -/
theorem Holds.cancel_queued (hs : Holds s c place) (hi : i < s.submitted)
    (hplace : place i = .queued h) :
    Request_func_cancel s i = (false, s) ∨
    ∃ t c' place', Request_func_cancel s i = (true, t) ∧ Holds t c' place' ∧
      t.cancels = s.cancels ∧ t.submitted = s.submitted ∧
      (t.req i).work = .cancelled ∧ (s.req i).worked = 0 := by
  have hh := hs.queued i hi h hplace
  have hmem : .req i ∈ c h := (hs.content h hh _).mpr ⟨i, hi, rfl, hplace⟩
  have hfits := hs.fits i hi
  rw [hplace] at hfits
  obtain ⟨hptr, hdone, hreleased, hwork⟩ := hfits
  rcases uv__work_cancel_cases s i with ⟨-, hnull, heq⟩ | ⟨hrefused, heq⟩
  · right
    have hzero : (s.req i).worked = 0 := by
      rcases hwork with ⟨-, -, hzero⟩ | ⟨-, ⟨hnull', -⟩ | ⟨-, hzero⟩⟩
      · exact hzero
      · exact absurd hnull' hnull
      · exact hzero
    have hloop := loop_wq_head s.drains.length
    have hremoved := hs.content.remove (p := .returned) hplace (hs.nodup hh) (by simp)
    have hrings := hs.rings.remove hh hmem
    have hfree := hremoved.free (req_not_head i _) (by simp)
    have hcontent := hremoved.insert (h := .loop_wq) (by simp) (same_submitted hi)
    rw [Function.update_idem] at hcontent
    have hcancel : Request_func_cancel s i = (true, (uv__work_cancel s i).2) := by
      simp [Request_func_cancel, hptr, heq]
    rw [heq] at hcancel
    refine ⟨_, _, _, hcancel, hs.change (p := .queued .loop_wq) rfl rfl rfl (same_submitted hi)
      (hrings.insert_tail hloop hfree) hcontent ?_
      (hs.same_executing (by simp [hplace]) (by simp)) hs.executing_nodup
      (hs.same_running (by simp [hplace]) (by simp)) hs.running_nodup ?_ ?_
      (hs.refs i hi) (fun _ _ => rfl), rfl, rfl, by simp, hzero⟩
    · rintro k ⟨⟩
      exact hloop
    · intro j hj hji hjfree
      have hkept := remove_keeps (hs.rings.ring _ hh) (List.mem_cons_of_mem _ hmem) (hjfree _ hh)
      refine (hkept.trans (insert_tail_keeps (hrings.ring _ hloop) ?_ (node_ne hji))).1
      intro hjmem
      refine hjfree _ hloop ?_
      rcases List.mem_cons.mp hjmem with heq | hjmem
      · simp [heq]
      · by_cases hl : h = .loop_wq
        · subst hl
          rw [Function.update_self] at hjmem
          exact List.mem_cons_of_mem _ (List.mem_of_mem_erase hjmem)
        · rw [Function.update_of_ne (Ne.symm hl)] at hjmem
          exact List.mem_cons_of_mem _ hjmem
    · simp [Fits, finished, hptr, hdone, hreleased, hzero]
  · left
    unfold Request_func_cancel
    rw [if_pos hptr, heq]
    simp [UV_EBUSY]

theorem cancel_inv (hs : Inv s) (hagain : ¬cancels_again s (.cancel i))
    (hstep : cancel s i = some t) : Inv t := by
  obtain ⟨c, place, hs⟩ := hs
  simp only [cancel] at hstep
  split at hstep
  · rename_i hguard
    obtain ⟨hi, -⟩ := hguard
    cases hstep
    by_cases hqueued : ∃ h, place i = .queued h
    · obtain ⟨h, hplace⟩ := hqueued
      have hbegun : (!(s.req i).done.isEmpty) = false := by
        have hfits := hs.fits i hi
        rw [hplace] at hfits
        simp [hfits.2.1]
      rcases hs.cancel_queued hi hplace with
        heq | ⟨t, c', place', heq, ht, hcancels, hsubmitted, hwork, hzero⟩
      · rw [heq]
        refine ⟨c, place, { hs with cancels := ?_ }⟩
        simpa [hbegun, hi] using hs.cancels
      · rw [heq]
        refine ⟨c', place', { ht with cancels := ?_ }⟩
        have hold := ht.cancels
        rw [hcancels] at hold
        have hlt : i < t.submitted := hsubmitted.symm ▸ hi
        simpa [hbegun, hlt, hwork, hzero] using hold
    · have hout : ∀ h, place i ≠ .queued h := fun h hp => hqueued ⟨h, hp⟩
      rw [hs.cancel_false hi hout hagain]
      refine ⟨c, place, { hs with cancels := ?_ }⟩
      simpa [hi] using hs.cancels
  · cases hstep

/-! ## Runs -/

theorem step_inv {nthreads : Nat} {a : Act} (hs : Inv s) (hagain : ¬cancels_again s a)
    (hstep : step nthreads s a = some t) : Inv t := by
  cases a with
  | submit kind =>
    cases hstep
    exact submit_inv hs kind
  | take => exact worker_take_inv hs hstep
  | finish i result => exact worker_finish_inv hs hstep
  | drain => exact uv__work_done_inv hs hstep
  | next => exact work_done_next_inv hs hstep
  | ret => exact callback_return_inv hs hstep
  | drained => exact work_done_end_inv hs hstep
  | cancel i => exact cancel_inv hs hagain hstep
  | incref i => exact user_incref_inv hs hstep
  | decref i => exact user_decref_inv hs hstep

theorem new_inv (m : Mem Node) : Inv (new m) := by
  have hrings : Rings (new m).mem (heads 0) (fun _ => []) := by
    have hwq : Rings (init .wq m) (insert .wq ∅) (Function.update (fun _ => []) .wq []) := by
      have hnone : Rings (init .wq m) (∅ : Set Node) (fun _ => []) := ⟨by simp, by simp, by simp⟩
      exact hnone.add (ring_init .wq m) (by simp) (by simp [Free])
    rw [Function.update_eq_self] at hwq
    have hfree : Free (insert .wq ∅) (fun _ => []) Node.loop_wq := by simp [Free]
    have hboth : Rings (new m).mem (insert .loop_wq (insert .wq ∅))
        (Function.update (fun _ => []) .loop_wq []) :=
      (hwq.init hfree).add (ring_init Node.loop_wq _) (by simp) (by simpa using hfree)
    rw [Function.update_eq_self] at hboth
    have hheads : heads 0 = insert .loop_wq (insert .wq ∅) := by
      ext x
      simp [heads, or_comm]
    rw [hheads]
    exact hboth
  refine ⟨fun _ => [], fun _ => .returned, hrings, ?_, ?_, ?_, ?_, ?_, ?_, ?_, ?_, ?_⟩ <;>
    simp [new, Content]

/-- The callback of a cancelled request can cancel it once more. -/
theorem not_kept_of_cancels_again {nthreads : Nat} {a : Act} (hs : Inv s)
    (hagain : cancels_again s a) (hstep : step nthreads s a = some t) : ¬Kept t := by
  obtain ⟨c, place, hs⟩ := hs
  cases a with
  | cancel i =>
    obtain ⟨hrunning, hcancelled⟩ := hagain
    obtain ⟨hi, hplace⟩ := (hs.running i).mp hrunning
    have hfits := hs.fits i hi
    rw [hplace] at hfits
    obtain ⟨hptr, -, -, ⟨d, hdone, -⟩, hlink⟩ := hfits
    have hresult : (Request_func_cancel s i).1 = true := by
      unfold Request_func_cancel
      rcases uv__work_cancel_cases s i with ⟨-, -, heq⟩ | ⟨hself | hnull, -⟩
      · simp [hptr, heq]
      · exact absurd hself hlink
      · simp [hcancelled] at hnull
    simp only [step, cancel] at hstep
    split at hstep
    · cases hstep
      intro hkept
      have hlate := hkept.late _ List.mem_cons_self (by simp [hdone])
      simp [hresult] at hlate
    · cases hstep
  | _ => exact hagain.elim

/-- The pool keeps its contract in a run if and only if no request that has been
cancelled is cancelled again while its completion callback runs. -/
theorem requests_are_completed_once_iff (nthreads : Nat) (m : Mem Node) (as : List Act) :
    runs.Always (step nthreads) Kept (new m) as ↔
    runs.Meets (step nthreads) (fun s a => ¬cancels_again s a) (new m) as := by
  have hinv : ∀ s a t, Inv s → ¬cancels_again s a → step nthreads s a = some t → Inv t :=
    fun s a t hs hagain hstep => step_inv hs hagain hstep
  have hiff : ∀ s a t, Inv s → step nthreads s a = some t → (Kept t ↔ ¬cancels_again s a) := by
    intro s a t hs hstep
    constructor
    · intro hkept hagain
      exact not_kept_of_cancels_again hs hagain hstep hkept
    · intro hagain
      obtain ⟨c, place, ht⟩ := step_inv hs hagain hstep
      exact ht.kept
  obtain ⟨c, place, hnew⟩ := new_inv m
  exact runs.always_iff_meets hinv hiff as (new_inv m) hnew.kept

/-- An FSRequest that is cancelled, and again by its own callback, is completed twice,
and both times drops the reference of libuv. -/
theorem a_request_is_completed_twice :
    ∃ as s, runs.exec (step 4) (new ⟨id, id⟩) as = some s ∧
      (s.req 0).done = [canceled .FSRequest, canceled .FSRequest] ∧ (s.req 0).released = 2 ∧
      (s.req 0).refcnt = 0 ∧ (s.req 0).user = 1 ∧
      ¬runs.Always (step 4) Kept (new ⟨id, id⟩) as := by
  let as : List Act := [.submit .FSRequest, .cancel 0, .drain, .next, .cancel 0, .ret, .drained,
    .drain, .next, .ret, .drained]
  refine ⟨as, _, rfl, rfl, rfl, rfl, rfl, fun h => ?_⟩
  have hlast := runs.always_iff_exec.mp h as _ (List.prefix_refl as) rfl
  exact absurd (hlast.once 0 (by decide)) (by decide)

end

end pyuv.threadpool
