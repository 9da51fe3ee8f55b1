-- uv__run_idle and its siblings: the local queue has the watchers that are active when the phase
-- begins, and each has its turn unless a callback before it stops or closes it.
import Pyuv.LoopRuns

set_option linter.style.nameCheck false
set_option linter.unusedSectionVars false

namespace pyuv.uvloop

open timerheap rings ends

variable {P : Type} [DecidableEq P]

/-! ## The turns -/

/-- The call takes the watcher out of the queue. -/
def Call.leaves (x : P) : Call P → Bool
  | .watcher_stop y | .close y _ => y = x
  | _ => false

/-- The watchers that the call leaves to be called. -/
def Call.out (q : List P) : Call P → List P
  | .watcher_stop x | .close x _ => q.erase x
  | _ => q

/-- The watcher that was called. -/
def Event.watcher? : Event P → Option P
  | .watcher_cb x _ _ => some x
  | _ => none

/-- The watchers whose callbacks are called. -/
def called (es : List (Event P)) : List P := es.filterMap Event.watcher?

/-- The callbacks of a queue. Each one may take others out, and not those that had their turn. -/
inductive Turns (t : HandleType) (cbs : P → Option ℕ) : List P → List (Event P) → Prop
  | nil : Turns t cbs [] []
  | turn {x : P} {cb : ℕ} {cs : List (Call P)} {q : List P} {es : List (Event P)} :
      cbs x = some cb → Turns t cbs (cs.foldl Call.out q) es →
        Turns t cbs (x :: q) (.watcher_cb x t cb :: cs.map .api ++ es)

/-- A watcher that was taken out is not called any more. -/
def Stale (e f : Event P) : Prop :=
  ∀ call x t cb, e = .api call → call.leaves x = true → f ≠ .watcher_cb x t cb

section

variable {t : HandleType} {cbs cbs' : P → Option ℕ} {q : List P} {es : List (Event P)} {x : P}
  {call : Call P} {cs : List (Call P)}

theorem out_sublist : List.Sublist (call.out q) q := by
  cases call with
  | watcher_stop y => exact List.erase_sublist
  | close y close_cb => exact List.erase_sublist
  | _ => exact .refl q

theorem outs_sublist (cs : List (Call P)) : ∀ q : List P, List.Sublist (cs.foldl Call.out q) q := by
  induction cs with
  | nil => exact fun q => .refl q
  | cons call cs ih => exact fun q => (ih (call.out q)).trans out_sublist

theorem mem_out (hnodup : q.Nodup) : x ∈ call.out q ↔ x ∈ q ∧ call.leaves x = false := by
  cases call with
  | watcher_stop y =>
    unfold Call.out Call.leaves
    rw [hnodup.mem_erase_iff, decide_eq_false_iff_not, ne_comm, and_comm]
  | close y close_cb =>
    unfold Call.out Call.leaves
    rw [hnodup.mem_erase_iff, decide_eq_false_iff_not, ne_comm, and_comm]
  | _ => simp [Call.out, Call.leaves]

theorem mem_outs (cs : List (Call P)) : ∀ {q : List P}, q.Nodup →
    (x ∈ cs.foldl Call.out q ↔ x ∈ q ∧ ∀ call ∈ cs, call.leaves x = false) := by
  induction cs with
  | nil => simp
  | cons call cs ih =>
    intro q hnodup
    rw [List.foldl_cons, ih (hnodup.sublist out_sublist), mem_out hnodup, List.forall_mem_cons,
      and_assoc]

theorem Turns.congr (h : Turns t cbs q es) (hsame : ∀ x ∈ q, cbs' x = cbs x) :
    Turns t cbs' q es := by
  induction h with
  | nil => exact .nil
  | @turn x cb cs q es hcb _ ih =>
    refine .turn ((hsame x List.mem_cons_self).trans hcb) (ih ?_)
    intro y hy
    exact hsame y (List.mem_cons_of_mem _ ((outs_sublist cs q).subset hy))

theorem called_api (cs : List (Call P)) : called (cs.map .api) = [] := by
  unfold called
  rw [List.filterMap_map, List.filterMap_eq_nil_iff]
  exact fun _ _ => rfl

theorem called_turn {cb : ℕ} :
    called (.watcher_cb x t cb :: cs.map .api ++ es) = x :: called es := by
  have happend : ∀ a b : List (Event P), called (a ++ b) = called a ++ called b :=
    fun a b => List.filterMap_append
  have hcons : ∀ a : List (Event P), called (.watcher_cb x t cb :: a) = x :: called a := fun _ =>
    rfl
  rw [List.cons_append, hcons, happend, called_api, List.nil_append]

/-- They have their turns in the order of the queue, and none has two. -/
theorem Turns.sublist (h : Turns t cbs q es) : List.Sublist (called es) q := by
  induction h with
  | nil => exact .refl []
  | @turn x cb cs q es _ _ ih =>
    rw [called_turn]
    exact (ih.trans (outs_sublist cs q)).cons_cons x

/-- None misses its turn that is not taken out. -/
theorem Turns.served (h : Turns t cbs q es) (hnodup : q.Nodup) (hx : x ∈ q)
    (hstays : ∀ call, .api call ∈ es → call.leaves x = false) : x ∈ called es := by
  induction h with
  | nil => exact hx
  | @turn y cb cs q es _ _ ih =>
    rw [called_turn]
    rcases List.mem_cons.mp hx with rfl | hx
    · exact List.mem_cons_self
    · obtain ⟨-, hnodup⟩ := List.nodup_cons.mp hnodup
      refine List.mem_cons_of_mem _ (ih (hnodup.sublist (outs_sublist cs q)) ?_ ?_)
      · refine (mem_outs cs hnodup).mpr ⟨hx, fun call hcall => hstays call ?_⟩
        exact List.mem_append_left _ (List.mem_cons_of_mem _ (List.mem_map_of_mem hcall))
      · exact fun call hcall => hstays call (List.mem_append_right _ hcall)

theorem Turns.stale (h : Turns t cbs q es) (hnodup : q.Nodup) : es.Pairwise Stale := by
  induction h with
  | nil => exact .nil
  | @turn y cb cs q es _ hturns ih =>
    obtain ⟨-, hnodup⟩ := List.nodup_cons.mp hnodup
    have hlater := ih (hnodup.sublist (outs_sublist cs q))
    rw [List.cons_append, List.pairwise_cons, List.pairwise_append]
    refine ⟨?_, ?_, hlater, ?_⟩
    · rintro f - call x s cb' hcall
      cases hcall
    · rw [List.pairwise_map]
      refine List.pairwise_of_forall fun a b => ?_
      rintro call x s cb' - - hb
      cases hb
    · rintro e he f hf call x s cb' rfl hleaves rfl
      obtain ⟨call', hcall', hsame⟩ := List.mem_map.mp he
      cases hsame
      have hx : x ∈ called es := List.mem_filterMap.mpr ⟨_, hf, rfl⟩
      have hstays := ((mem_outs cs hnodup).mp (hturns.sublist.subset hx)).2 call hcall'
      rw [hleaves] at hstays
      cases hstays

theorem Turns.stirs (h : Turns t cbs q es) : Stirs es := by
  cases h with
  | nil => exact .inl rfl
  | turn _ _ => exact .cons rfl

/-- Each callback is the one that its watcher has. -/
theorem Turns.callback (h : Turns t cbs q es) {s : HandleType} {cb : ℕ}
    (hx : .watcher_cb x s cb ∈ es) : s = t ∧ cbs x = some cb := by
  induction h with
  | nil => exact absurd hx List.not_mem_nil
  | @turn y cb' cs q es hcb _ ih =>
    rcases List.mem_append.mp hx with hx | hx
    · rcases List.mem_cons.mp hx with heq | hx
      · cases heq
        exact ⟨rfl, hcb⟩
      · obtain ⟨call, -, heq⟩ := List.mem_map.mp hx
        cases heq
    · exact ih hx

end

/-! ## A watcher that is not taken out -/

variable [Fintype P]

section

variable {l m : Loop P} {x : P} {call : Call P} {cs : List (Call P)}

/-- What other calls leave as it is. -/
structure Stays (l m : Loop P) (x : P) : Prop where
  watches : watching (m.handles x) = true
  type : (m.handles x).type = (l.handles x).type
  cb : (m.handles x).cb = (l.handles x).cb

theorem Stays.refl (hx : watching (l.handles x) = true) : Stays l l x := ⟨hx, rfl, rfl⟩

theorem Stays.trans {n : Loop P} (h₁ : Stays l m x) (h₂ : Stays m n x) : Stays l n x :=
  ⟨h₂.watches, h₂.type.trans h₁.type, h₂.cb.trans h₁.cb⟩

/-- The call is for another handle, or changes nothing that matters here. -/
theorem Stays.update (hx : watching (l.handles x) = true) {y : P} {g : Handle}
    (hhandles : m.handles = Function.update l.handles y g)
    (hsame : y = x → g.active = (l.handles x).active ∧ g.type = (l.handles x).type ∧
      g.cb = (l.handles x).cb) : Stays l m x := by
  by_cases hyx : y = x
  · obtain ⟨hactive, htype, hcb⟩ := hsame hyx
    have hmx : m.handles x = g := by
      rw [hhandles, hyx, Function.update_self]
    refine ⟨?_, by rw [hmx, htype], by rw [hmx, hcb]⟩
    rw [hmx]
    unfold watching at *
    rw [hactive, htype, hx]
  · have hmx : m.handles x = l.handles x := by
      rw [hhandles, Function.update_of_ne (Ne.symm hyx)]
    exact ⟨by rw [hmx, hx], by rw [hmx], by rw [hmx]⟩

theorem watching_iff {h : Handle} :
    watching h = true ↔ h.active = true ∧ h.type.is_watcher = true := by
  simp [watching]

theorem effect_stays {now : Option HandleType} {rest : List P} {c : Node P → List (Node P)}
    (hi : Inv now rest c l) (hlegal : call.legal l = true) (hx : watching (l.handles x) = true)
    (hcall : call.leaves x = false) : Stays l (call.effect l) x := by
  obtain ⟨hactive, hwatcher⟩ := watching_iff.mp hx
  obtain ⟨hinit, hclosing⟩ := (hi.flags.sane x).active hactive
  have htimer : (l.handles x).type ≠ .UV_TIMER := by
    intro htype
    rw [htype] at hwatcher
    exact absurd hwatcher (by decide)
  cases call with
  | init y t =>
    refine .update (y := y) (g := (uv__handle_init l y t).handles y) hx ?_ ?_
    · unfold Call.effect uv__handle_init
      rw [set_self]
      rfl
    · rintro rfl
      simp only [Call.legal, decide_eq_true_eq] at hlegal
      rw [(hi.legal_init hlegal).1] at hactive
      cases hactive
  | timer_start y cb timeout repeat_ =>
    simp only [Call.legal, decide_eq_true_eq] at hlegal
    cases cb with
    | none => exact .refl hx
    | some cb =>
      refine .update (y := y) hx (started_handles l.timer_heap) ?_
      rintro rfl
      exact absurd hlegal.2.1 htimer
  | timer_stop y =>
    simp only [Call.legal, decide_eq_true_eq] at hlegal
    refine .update (y := y) hx (stopped_handles l.timer_heap) ?_
    rintro rfl
    exact absurd hlegal.2 htimer
  | timer_again y =>
    simp only [Call.legal, decide_eq_true_eq] at hlegal
    rw [Call.effect, again_effect]
    split
    · exact .refl hx
    · split
      · exact .refl hx
      · refine .update (y := y) hx (started_handles l.timer_heap) ?_
        rintro rfl
        exact absurd hlegal.2 htimer
  | timer_set_repeat y repeat_ =>
    refine .update (y := y) (g := { l.handles y with repeat_ := repeat_ }) hx rfl ?_
    rintro rfl
    exact ⟨rfl, rfl, rfl⟩
  | watcher_start y cb =>
    cases cb with
    | none => exact .refl hx
    | some cb =>
      rw [Call.effect, watch_effect]
      split
      · exact .refl hx
      · rename_i hidle
        refine .update (y := y) (g := { l.handles y with cb := some cb, active := true }) hx rfl ?_
        rintro rfl
        exact absurd hactive hidle
  | watcher_stop y =>
    refine .update (y := y) (g := { l.handles y with active := false }) hx rfl ?_
    intro hyx
    simp [Call.leaves, hyx] at hcall
  | other_start y =>
    simp only [Call.legal, decide_eq_true_eq] at hlegal
    refine .update (y := y) (g := { l.handles y with active := true }) hx rfl ?_
    rintro rfl
    exact ⟨hactive.symm, rfl, rfl⟩
  | other_stop y =>
    simp only [Call.legal, decide_eq_true_eq] at hlegal
    refine .update (y := y) (g := { l.handles y with active := false }) hx rfl ?_
    rintro rfl
    rw [(polled_idle hlegal.2).2] at hx
    cases hx
  | signal_handler y =>
    refine .update (y := y) (m := uv__signal_handler l y) hx rfl ?_
    rintro rfl
    exact ⟨rfl, rfl, rfl⟩
  | signal_event y =>
    refine .update (y := y) (g := read_handle (l.handles y)) hx ?_ ?_
    · rw [Call.effect, pend_handles]
      rfl
    · rintro rfl
      exact ⟨rfl, rfl, rfl⟩
  | ref y =>
    refine .update (y := y) (g := { l.handles y with ref := true }) hx rfl ?_
    rintro rfl
    exact ⟨rfl, rfl, rfl⟩
  | unref y =>
    refine .update (y := y) (g := { l.handles y with ref := false }) hx rfl ?_
    rintro rfl
    exact ⟨rfl, rfl, rfl⟩
  | close y close_cb =>
    refine .update (y := y) (g := shut_handle (l.handles y) close_cb) hx ?_ ?_
    · rw [Call.effect, pend_handles]
      rfl
    · intro hyx
      simp [Call.leaves, hyx] at hcall
  | req_register => exact ⟨hx, rfl, rfl⟩
  | req_unregister => exact ⟨hx, rfl, rfl⟩
  | update_time time => exact ⟨hx, rfl, rfl⟩
  | stop => exact ⟨hx, rfl, rfl⟩

theorem Steps.stays (h : Steps l cs m) (hx : watching (l.handles x) = true)
    (hcs : ∀ call ∈ cs, call.leaves x = false) : Stays l m x := by
  induction h with
  | nil l => exact .refl hx
  | @cons l m n call cs hlegal hinv halike _ ih =>
    obtain ⟨now, rest, c, hi⟩ := hinv
    obtain ⟨hcall, hcs⟩ := List.forall_mem_cons.mp hcs
    have hone : Stays l (n.note (.api call)) x := by
      have heffect := effect_stays hi hlegal hx hcall
      have hhandles : (n.note (.api call)).handles = (call.effect l).handles := halike.handles
      exact ⟨by rw [hhandles]; exact heffect.watches, by rw [hhandles]; exact heffect.type,
        by rw [hhandles]; exact heffect.cb⟩
    exact hone.trans (ih hone.watches hcs)

end

/-! ## The local queue -/

section

variable {l m : Loop P} {x : P} {t s : HandleType} {rest : List P} {c : Node P → List (Node P)}
  {q : List P}

theorem heads_some (ht : t.is_watcher = true) :
    (heads (some t) : Set (Node P)) = insert .queue (heads none) := by
  ext n
  simp only [heads, Set.mem_insert_iff, Set.mem_ofPred_eq]
  cases n with
  | list s => simp [Node.kind]
  | queue => simp [Node.kind, ht]
  | handle x => simp [Node.kind]

theorem queue_head (ht : t.is_watcher = true) : (.queue : Node P) ∈ heads (some t) := ⟨t, ht, rfl⟩

theorem queue_not_head : (.queue : Node P) ∉ heads none := by
  rintro ⟨t, -, hkind⟩
  cases hkind

/-- The watchers of a list become those of the local queue. -/
def moved (c : Node P → List (Node P)) (t : HandleType) : Node P → List (Node P) :=
  Function.update (Function.update c (.list t) []) .queue (c (.list t))

theorem Listed.move (hl : Listed none c l) (ht : t.is_watcher = true)
    (hqueues : m.queues = rings.move (.list t) .queue l.queues) (hhandles : m.handles = l.handles) :
    Listed (some t) (moved c t) m := by
  have hfree : Free (heads none) c (.queue : Node P) := by
    intro h hh hmem
    rcases List.mem_cons.mp hmem with rfl | hmem
    · exact queue_not_head hh
    · obtain ⟨y, hy, -⟩ := hl.listed h hh _ hmem
      cases hy
  have hqueue : moved c t .queue = c (.list t) := Function.update_self ..
  have hlist : moved c t (.list t) = [] := by
    unfold moved
    rw [Function.update_of_ne (by intro h; cases h), Function.update_self]
  have hother : ∀ n, n ≠ .queue → n ≠ .list t → moved c t n = c n := by
    intro n hn hnt
    unfold moved
    rw [Function.update_of_ne hn, Function.update_of_ne hnt]
  refine ⟨?_, ?_, ?_, ?_⟩
  · rw [hqueues, heads_some ht]
    exact hl.ring.move (list_head ht) hfree
  · intro h hh n hn
    rw [hhandles]
    by_cases hq : h = .queue
    · subst hq
      rw [hqueue] at hn
      exact hl.listed _ (list_head ht) n hn
    · by_cases hlt : h = .list t
      · subst hlt
        rw [hlist] at hn
        cases hn
      · rw [hother h hq hlt] at hn
        rw [heads_some ht] at hh
        obtain ⟨y, rfl, hy, hkind⟩ := hl.listed h (hh.resolve_left hq) n hn
        refine ⟨y, rfl, hy, ?_⟩
        cases h with
        | queue => exact absurd rfl hq
        | list s => exact hkind
        | handle z => exact hkind
  · intro y hy
    rw [hhandles] at hy
    obtain ⟨h, hh, hmem⟩ := hl.found y hy
    by_cases hlt : h = .list t
    · subst hlt
      exact ⟨.queue, queue_head ht, by rwa [hqueue]⟩
    · have hq : h ≠ .queue := by
        rintro rfl
        exact queue_not_head hh
      refine ⟨h, ?_, by rwa [hother h hq hlt]⟩
      rw [heads_some ht]
      exact .inr hh
  · intro n hn
    rw [heads_some ht, Set.mem_insert_iff, not_or] at hn
    rw [hother n hn.1 (by rintro rfl; exact hn.2 (list_head ht))]
    exact hl.outside n hn.2

/-- The local queue is empty, and given up. -/
theorem Listed.drop (hl : Listed (some t) c l) (ht : t.is_watcher = true)
    (hempty : c .queue = []) : Listed none c l := by
  refine ⟨?_, ?_, ?_, ?_⟩
  · have hring := hl.ring
    rw [heads_some ht] at hring
    exact hring.drop
  · intro h hh n hn
    obtain ⟨y, rfl, hy, hkind⟩ := hl.listed h (by rw [heads_some ht]; exact .inr hh) n hn
    refine ⟨y, rfl, hy, ?_⟩
    cases h with
    | queue => exact absurd hh queue_not_head
    | list s => exact hkind
    | handle z => exact hkind
  · intro y hy
    obtain ⟨h, hh, hmem⟩ := hl.found y hy
    rw [heads_some ht] at hh
    rcases hh with rfl | hh
    · rw [hempty] at hmem
      cases hmem
    · exact ⟨h, hh, hmem⟩
  · intro n hn
    by_cases hq : n = .queue
    · rw [hq, hempty]
    · refine hl.outside n ?_
      rw [heads_some ht]
      rintro (h | h)
      · exact hq h
      · exact hn h

/-- The first watcher of the queue goes to the end of its list. -/
theorem Listed.turn (hl : Listed (some t) c l) (ht : t.is_watcher = true)
    (hc : c .queue = (.handle x :: q.map .handle))
    (hqueues : m.queues = insert_tail (.list t) (.handle x) (remove (.handle x) l.queues))
    (hhandles : m.handles = l.handles) :
    ∃ d, Listed (some t) d m ∧ d .queue = q.map .handle := by
  have hqueue := queue_head (P := P) ht
  have hmem : .handle x ∈ c .queue := by
    rw [hc]
    exact List.mem_cons_self
  have herase : (c .queue).erase (.handle x) = q.map .handle := by
    rw [hc, List.erase_cons_head]
  have hremoved := hl.ring.remove hqueue hmem
  rw [herase] at hremoved
  have hnodup := hl.ring.nodup _ hqueue
  rw [hc] at hnodup
  have hfree : Free (heads (some t)) (Function.update c .queue (q.map .handle)) (.handle x) := by
    intro h hh hx
    rcases List.mem_cons.mp hx with rfl | hx
    · exact handle_not_head hh
    · by_cases hq : h = .queue
      · subst hq
        rw [Function.update_self] at hx
        exact (List.nodup_cons.mp (List.nodup_cons.mp hnodup).2).1 hx
      · rw [Function.update_of_ne hq] at hx
        exact hl.ring.apart .queue hqueue h hh (Ne.symm hq) _ (List.mem_cons_of_mem _ hmem)
          (List.mem_cons_of_mem _ hx)
  have hne : (.list t : Node P) ≠ .queue := by
    intro h
    cases h
  have hring := hremoved.insert_tail (list_head ht) hfree
  rw [Function.update_of_ne hne] at hring
  refine ⟨_, ⟨by rw [hqueues]; exact hring, ?_, ?_, ?_⟩, ?_⟩
  · intro h hh n hn
    rw [hhandles]
    by_cases hlt : h = .list t
    · subst hlt
      rw [Function.update_self] at hn
      rcases List.mem_append.mp hn with hn | hn
      · exact hl.listed _ hh n hn
      · rw [List.mem_singleton.mp hn]
        exact hl.listed _ hqueue _ hmem
    · rw [Function.update_of_ne hlt] at hn
      by_cases hq : h = .queue
      · subst hq
        rw [Function.update_self] at hn
        exact hl.listed _ hqueue n (by rw [hc]; exact List.mem_cons_of_mem _ hn)
      · rw [Function.update_of_ne hq] at hn
        exact hl.listed _ hh n hn
  · intro y hy
    rw [hhandles] at hy
    obtain ⟨h, hh, hymem⟩ := hl.found y hy
    by_cases hyx : y = x
    · subst hyx
      refine ⟨.list t, list_head ht, ?_⟩
      rw [Function.update_self]
      exact List.mem_append_right _ (List.mem_singleton_self _)
    · refine ⟨h, hh, ?_⟩
      by_cases hlt : h = .list t
      · subst hlt
        rw [Function.update_self]
        exact List.mem_append_left _ hymem
      · rw [Function.update_of_ne hlt]
        by_cases hq : h = .queue
        · subst hq
          rw [Function.update_self]
          rw [hc] at hymem
          refine (List.mem_cons.mp hymem).resolve_left ?_
          intro heq
          exact hyx (Node.handle.inj heq)
        · rwa [Function.update_of_ne hq]
  · intro n hn
    have hnt : n ≠ .list t := by
      rintro rfl
      exact hn (list_head ht)
    have hnq : n ≠ .queue := by
      rintro rfl
      exact hn hqueue
    rw [Function.update_of_ne hnt, Function.update_of_ne hnq]
    exact hl.outside n hn
  · rw [Function.update_of_ne (Ne.symm hne), Function.update_self]

theorem Good.move (hg : Good none rest c l) (ht : t.is_watcher = true) :
    Good (some t) rest (moved c t) { l with queues := rings.move (.list t) .queue l.queues } := by
  refine ⟨⟨hg.inv.counted, hg.inv.heaped, hg.inv.listed.move ht rfl rfl, ?_⟩, ?_, hg.followed⟩
  · exact ⟨hg.inv.flags.nodup, hg.inv.flags.waits, hg.inv.flags.sane⟩
  · exact hg.timely.shrink rfl rfl rfl le_rfl hg.timely.time fun _ h => ⟨h, rfl⟩

theorem Good.drop (hg : Good (some t) rest c l) (ht : t.is_watcher = true)
    (hempty : c .queue = []) : Good none rest c l :=
  ⟨⟨hg.inv.counted, hg.inv.heaped, hg.inv.listed.drop ht hempty, hg.inv.flags⟩, hg.timely,
    hg.followed⟩

/-- The loop when the watcher `x` has its turn. -/
def turned (l : Loop P) (t : HandleType) (x : P) : Loop P :=
  { l with queues := insert_tail (.list t) (.handle x) (remove (.handle x) l.queues) }

theorem Good.turn (hg : Good (some t) rest c l) (ht : t.is_watcher = true)
    (hc : c .queue = (.handle x :: q.map .handle)) :
    ∃ d cb, (l.handles x).cb = some cb ∧ d .queue = q.map .handle ∧
      Good (some t) rest d ((turned l t x).note (.watcher_cb x t cb)) := by
  obtain ⟨d, hlisted, hd⟩ := hg.inv.listed.turn (m := turned l t x) ht hc rfl rfl
  obtain ⟨y, hy, hwatching, -⟩ :=
    hg.inv.listed.listed _ (queue_head ht) (.handle x) (by rw [hc]; exact List.mem_cons_self)
  rw [← Node.handle.inj hy] at hwatching
  obtain ⟨hactive, hwatcher⟩ := watching_iff.mp hwatching
  have hsane := hg.inv.flags.sane x
  obtain ⟨hinit, hclosing⟩ := hsane.active hactive
  have hother : (l.handles x).type.is_polled = false := by
    cases ht : (l.handles x).type with
    | UV_SIGNAL | other =>
      rw [ht] at hwatcher
      exact absurd hwatcher (by decide)
    | _ => rfl
  obtain ⟨cb, hcb⟩ := Option.isSome_iff_exists.mp (hsane.cb hactive hother)
  have hgood : Good (some t) rest d (turned l t x) := by
    refine ⟨⟨hg.inv.counted, hg.inv.heaped, hlisted, ?_⟩, ?_, hg.followed⟩
    · exact ⟨hg.inv.flags.nodup, hg.inv.flags.waits, hg.inv.flags.sane⟩
    · exact hg.timely.shrink rfl rfl rfl le_rfl hg.timely.time fun _ h => ⟨h, rfl⟩
  refine ⟨d, cb, hcb, hd, hgood.note rfl ?_⟩
  have hopened : statuses (turned l t x) x = .opened := status_opened hinit hclosing
  rw [Event.next, if_pos hopened]

/-- The nodes of a ring are handles. -/
theorem Listed.names {now : Option HandleType} (hl : Listed now c l) {h : Node P}
    (hh : h ∈ heads now) : ∃ q : List P, c h = q.map .handle ∧ q.Nodup := by
  have hall : ∀ ns : List (Node P), (∀ n ∈ ns, ∃ x, n = .handle x) →
      ∃ q : List P, ns = q.map .handle := by
    intro ns
    induction ns with
    | nil => exact fun _ => ⟨[], rfl⟩
    | cons n ns ih =>
      intro hns
      obtain ⟨⟨x, rfl⟩, htail⟩ := List.forall_mem_cons.mp hns
      obtain ⟨q, rfl⟩ := ih htail
      exact ⟨x :: q, rfl⟩
  obtain ⟨q, hq⟩ := hall (c h) fun n hn => by
    obtain ⟨x, hx, -⟩ := hl.listed h hh n hn
    exact ⟨x, hx⟩
  refine ⟨q, hq, ?_⟩
  have hnodup := (List.nodup_cons.mp (hl.ring.nodup h hh)).2
  rw [hq] at hnodup
  exact List.Nodup.of_map _ hnodup

/-- Between the phases, the list of a type has the active watchers of the type. -/
theorem Listed.mem_list (hl : Listed none c l) (ht : t.is_watcher = true) :
    .handle x ∈ c (.list t) ↔ (l.handles x).active = true ∧ (l.handles x).type = t := by
  constructor
  · intro hx
    obtain ⟨y, hy, hwatching, hkind⟩ := hl.listed _ (list_head ht) _ hx
    rw [← Node.handle.inj hy] at hwatching hkind
    exact ⟨(watching_iff.mp hwatching).1, (Option.some.inj hkind).symm⟩
  · rintro ⟨hactive, htype⟩
    obtain ⟨h, hh, hmem⟩ := hl.found x (watching_iff.mpr ⟨hactive, by rw [htype, ht]⟩)
    obtain ⟨y, hy, -, hkind⟩ := hl.listed h hh _ hmem
    rw [← Node.handle.inj hy, htype] at hkind
    cases h with
    | list s =>
      rw [← Option.some.inj hkind]
      exact hmem
    | queue => cases hkind
    | handle z => cases hkind

theorem leave_map (call : Call P) : call.leave (q.map .handle) = (call.out q).map .handle := by
  have hinj : Function.Injective (Node.handle : P → Node P) := fun a b h => Node.handle.inj h
  cases call with
  | watcher_stop y => exact (List.map_erase hinj q).symm
  | close y close_cb => exact (List.map_erase hinj q).symm
  | _ => rfl

theorem leaves_map (cs : List (Call P)) : ∀ q : List P,
    cs.foldl Call.leave (q.map .handle) = (cs.foldl Call.out q).map .handle := by
  induction cs with
  | nil => exact fun _ => rfl
  | cons call cs ih =>
    intro q
    rw [List.foldl_cons, leave_map, ih]
    rfl

end

/-! ## The phases -/

section

variable {E : Env P} {l m : Loop P} {x : P} {t : HandleType} {rest : List P}
  {c : Node P → List (Node P)} {q : List P} (hroom : Fintype.card P < UINT_SIZE)

theorem uv__run_queue.end (hg : Good (some t) rest c l) (ht : t.is_watcher = true)
    (hc : c .queue = []) (fuel : ℕ) : uv__run_queue E t (fuel + 1) l = .ok () l := by
  have hempty : rings.empty (.queue : Node P) l.queues = true :=
    decide_eq_true ((hg.inv.listed.ring.empty_iff (queue_head ht)).mpr hc)
  rw [uv__run_queue, get_bind, if_pos hempty]
  rfl

theorem uv__run_queue.round (hg : Good (some t) rest c l) (ht : t.is_watcher = true)
    (hc : c .queue = (.handle x :: q.map .handle)) {cb : ℕ} (hcb : (l.handles x).cb = some cb)
    (fuel : ℕ) :
    uv__run_queue E t (fuel + 1) l =
      (perform (E.callback ((turned l t x).note (.watcher_cb x t cb))) >>= fun _ =>
        uv__run_queue E t fuel) ((turned l t x).note (.watcher_cb x t cb)) := by
  have hring := hg.inv.listed.ring.ring _ (queue_head ht)
  rw [hc] at hring
  have hfirst : l.queues.next .queue = .handle x := hring.next_head
  have hempty : ¬rings.empty (.queue : Node P) l.queues = true := by
    unfold rings.empty
    rw [hfirst]
    simp
  rw [uv__run_queue, get_bind, if_neg hempty, hfirst]
  dsimp only [Node.handle?]
  rw [orAbort_bind, hcb, orAbort_bind, set_bind]
  rfl

include hroom in
theorem uv__run_queue.spec (ht : t.is_watcher = true) (fuel : ℕ) :
    ∀ (q : List P) (c : Node P → List (Node P)) (l : Loop P), Good (some t) rest c l →
      c .queue = q.map .handle → q.length < fuel →
      (∃ m es, uv__run_queue E t fuel l = .ok () m ∧ Sound none rest m ∧ Grows l es m ∧
        Turns t (fun x => (l.handles x).cb) q es) ∨
        ∃ m es, uv__run_queue E t fuel l = .error .misuse m ∧ Sound (some t) rest m ∧
          Grows l es m := by
  induction fuel with
  | zero => exact fun q c l _ _ hlen => absurd hlen (Nat.not_lt_zero _)
  | succ fuel ih =>
    intro q c l hg hc hlen
    cases q with
    | nil =>
      exact .inl ⟨l, [], uv__run_queue.end hg ht hc fuel, ⟨c, hg.drop ht hc⟩, .refl l, .nil⟩
    | cons x q =>
      obtain ⟨d, cb, hcb, hd, hgood⟩ := hg.turn ht hc
      rw [uv__run_queue.round hg ht hc hcb]
      have hone : Grows l [.watcher_cb x t cb] ((turned l t x).note (.watcher_cb x t cb)) :=
        .of_log rfl (List.cons_ne_nil _ _) rfl
      have hnodup := hg.inv.listed.ring.nodup _ (queue_head ht)
      rw [hc] at hnodup
      have hqnodup : q.Nodup :=
        List.Nodup.of_map _ (List.nodup_cons.mp (List.nodup_cons.mp hnodup).2).2
      generalize hcs : E.callback ((turned l t x).note (.watcher_cb x t cb)) = cs
      cases hrun : perform cs ((turned l t x).note (.watcher_cb x t cb)) with
      | error e m =>
        obtain ⟨rfl, ⟨d', hd'⟩, done, -, hsteps⟩ :=
          (perform.spec hroom cs (some t) rest d).error hgood hrun
        rw [bind_of_error hrun]
        exact .inr ⟨m, _, rfl, ⟨d', hd'⟩, hone.trans hsteps.grows⟩
      | ok u n =>
        obtain ⟨hsteps, d', hd', hqueue⟩ := (perform.spec hroom cs (some t) rest d).ok hgood hrun
        rw [hd, leaves_map] at hqueue
        have hshort : (cs.foldl Call.out q).length < fuel := by
          have hle := (outs_sublist cs q).length_le
          rw [List.length_cons] at hlen
          omega
        rw [bind_of_ok hrun]
        rcases ih _ d' n hd' hqueue hshort with
          ⟨m, es, hok, hm, hgrows, hturns⟩ | ⟨m, es, herr, hm, hgrows⟩
        · refine .inl ⟨m, _, hok, hm, hone.trans (hsteps.grows.trans hgrows), ?_⟩
          refine .turn hcb (hturns.congr ?_)
          intro y hy
          obtain ⟨hyq, hstays⟩ := (mem_outs cs hqnodup).mp hy
          obtain ⟨z, hz, hwatching, -⟩ := hg.inv.listed.listed _ (queue_head ht) (.handle y)
            (by rw [hc]; exact List.mem_cons_of_mem _ (List.mem_map_of_mem hyq))
          rw [← Node.handle.inj hz] at hwatching
          exact (hsteps.stays hwatching hstays).cb.symm
        · exact .inr ⟨m, _, herr, hm, hone.trans (hsteps.grows.trans hgrows)⟩

/-- The watchers of the list `q` take turns. -/
structure Served (l : Loop P) (t : HandleType) (q : List P) (es : List (Event P)) : Prop where
  ring : Ring l.queues (.list t) (q.map .handle)
  nodup : q.Nodup
  active : ∀ x, x ∈ q ↔ (l.handles x).active = true ∧ (l.handles x).type = t
  turns : Turns t (fun x => (l.handles x).cb) q es

include hroom in
theorem uv__run_watchers.spec (hl : Sound none rest l) (ht : t.is_watcher = true) :
    (∃ m es q, uv__run_watchers E t l = .ok () m ∧ Sound none rest m ∧ Grows l es m ∧
      Served l t q es) ∨
      ∃ m es, uv__run_watchers E t l = .error .misuse m ∧ Sound (some t) rest m ∧
        Grows l es m := by
  obtain ⟨c, hg⟩ := hl
  obtain ⟨q, hq, hnodup⟩ := hg.inv.listed.names (list_head ht)
  have hqueue : moved c t .queue = q.map .handle := by
    rw [← hq]
    exact Function.update_self ..
  have hmem : ∀ x, x ∈ q ↔ (l.handles x).active = true ∧ (l.handles x).type = t := by
    intro x
    rw [← hg.inv.listed.mem_list ht, hq, List.mem_map_of_injective fun a b h => Node.handle.inj h]
  have hring := hg.inv.listed.ring.ring _ (list_head ht)
  rw [hq] at hring
  have hrun : uv__run_watchers E t l = uv__run_queue E t (Fintype.card P + 1)
      { l with queues := rings.move (.list t) .queue l.queues } := rfl
  have hmove : Grows l [] { l with queues := rings.move (.list t) .queue l.queues } :=
    ⟨by simp, .inl, fun _ => ⟨le_rfl, rfl⟩⟩
  rw [hrun]
  rcases uv__run_queue.spec (E := E) hroom ht (Fintype.card P + 1) q (moved c t) _ (hg.move ht)
      hqueue (Nat.lt_succ_of_le hnodup.length_le_card) with
    ⟨m, es, hok, hm, hgrows, hturns⟩ | ⟨m, es, herr, hm, hgrows⟩
  · exact .inl ⟨m, es, q, hok, hm, hmove.trans hgrows, hring, hnodup, hmem, hturns⟩
  · exact .inr ⟨m, es, herr, hm, hmove.trans hgrows⟩

include hroom in
theorem uv__run_watchers.phase (ht : t.is_watcher = true) :
    Phase none rest (fun l _ es _ => ∃ q, Served l t q es) (uv__run_watchers E t) := by
  refine Ends.of ?_ ?_
  · intro l _ m hl hrun
    rcases uv__run_watchers.spec hroom (E := E) hl ht with
      ⟨m', es, q, hok, hm, hgrows, hserved⟩ | ⟨m', es, herr, hm, hgrows⟩
    · rw [hok] at hrun
      cases hrun
      exact ⟨hm, es, hgrows, q, hserved⟩
    · rw [herr] at hrun
      cases hrun
  · intro l e m hl hrun
    rcases uv__run_watchers.spec hroom (E := E) hl ht with
      ⟨m', es, q, hok, hm, hgrows, hserved⟩ | ⟨m', es, herr, hm, hgrows⟩
    · rw [hok] at hrun
      cases hrun
    · rw [herr] at hrun
      cases hrun
      exact ⟨(by intro h; cases h), ⟨_, _, hm⟩, es, hgrows⟩

end

end pyuv.uvloop
