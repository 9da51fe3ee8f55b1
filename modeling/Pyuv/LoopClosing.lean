-- The end of the closings, one round of the loop, uv_run and whole programs: everything holds in
-- every state that a program ends in.
import Pyuv.LoopWatchers

set_option linter.style.nameCheck false
set_option linter.unusedSectionVars false

namespace pyuv.uvloop

open timerheap rings ends

variable {P : Type} [DecidableEq P] [Fintype P]

section

variable {l m : Loop P} {p : P} {now : Option HandleType} {rest : List P}
  {c : Node P → List (Node P)}

/-! ## The end of a closing -/

/-- The handle `p` when its closing has ended. -/
def finished (l : Loop P) (p : P) : Loop P :=
  recount (l.set p fun h => { h with closed := true, ref := false })

theorem finished_handles : (finished l p).handles =
    Function.update l.handles p { l.handles p with closed := true, ref := false } := rfl

theorem waiting_iff {h : Handle} :
    waiting h = true ↔
      h.initialized = true ∧ h.closing = true ∧ h.closed = false ∧ h.trapped = false := by
  simp [waiting, and_assoc]

theorem unref_finished (hroom : Fintype.card P < UINT_SIZE) (hc : Counted l) :
    uv__handle_unref (l.set p fun h => { h with closed := true }) p = finished l p := by
  have hcounted : Counted (l.set p fun h => { h with closed := true }) := by
    have hsame := recount_same (l := l) (x := p) (f := fun h => { h with closed := true }) hc rfl
    exact congrArg Loop.active_handles hsame
  rw [handle_unref_eq hroom hcounted]
  unfold finished Loop.set
  simp only [Function.update_self, Function.update_idem]

theorem Flags.finish (hf : Flags (p :: rest) l) : Flags rest (finished l p) := by
  have hnodup := hf.nodup
  rw [List.nodup_middle] at hnodup
  obtain ⟨hp, hnodup⟩ := List.nodup_cons.mp hnodup
  refine ⟨hnodup, ?_, ?_⟩
  · intro y
    have hwas := hf.waits y
    rw [List.mem_append, List.mem_cons] at hwas
    change y ∈ l.closing_handles ++ rest ↔ _
    rw [finished_handles]
    by_cases hyp : y = p
    · rw [hyp, Function.update_self]
      simp [waiting]
      simpa using hp
    · rw [Function.update_of_ne hyp, ← hwas, List.mem_append]
      simp [hyp]
  · intro y
    rw [finished_handles]
    by_cases hyp : y = p
    · rw [hyp, Function.update_self]
      have hsane := hf.sane p
      obtain ⟨-, hclosing, -, hquiet⟩ := waiting_iff.mp ((hf.waits p).mp (by simp))
      exact ⟨hsane.active, fun _ => hclosing, hsane.cb, fun _ => hquiet⟩
    · rw [Function.update_of_ne hyp]
      exact hf.sane y

theorem Inv.finish (hi : Inv now (p :: rest) c l) : Inv now rest c (finished l p) := by
  refine ⟨counted_recount, ?_, ?_, hi.flags.finish⟩
  · refine hi.heaped.congr rfl ?_ ?_
    · intro y
      rw [finished_handles]
      by_cases hyp : y = p
      · rw [hyp, Function.update_self]
        rfl
      · rw [Function.update_of_ne hyp]
    · intro y _
      unfold timer_key
      rw [finished_handles]
      by_cases hyp : y = p
      · rw [hyp, Function.update_self]
      · rw [Function.update_of_ne hyp]
  · exact hi.listed.update (x := p) rfl finished_handles rfl fun _ => rfl

theorem Good.finish (hg : Good now (p :: rest) c l) :
    Good now rest c ((finished l p).note (.closed p)) := by
  obtain ⟨hinit, hclosing, hclosed, -⟩ := waiting_iff.mp ((hg.inv.flags.waits p).mp (by simp))
  refine ⟨hg.inv.finish.note, ?_, ?_⟩
  · refine (hg.timely.update (m := finished l p) rfl rfl rfl rfl finished_handles ?_).note rfl
    exact fun h => ⟨h, rfl, rfl⟩
  · refine hg.followed.note (e := .closed p) rfl ?_
    have hwas : statuses l p = .closing := by
      simp [statuses, Handle.status, hinit, hclosing, hclosed]
    have hnow : (Handle.status { l.handles p with closed := true, ref := false }) = .closed := by
      simp [Handle.status, hinit, hclosing]
    rw [Event.next, if_pos hwas, ← hnow]
    exact congrArg some
      (statuses_update (m := (finished l p).note (.closed p)) finished_handles).symm

/-- The handle whose closing the entry reports. -/
def Event.closed? : Event P → Option P
  | .closed x => some x
  | _ => none

/-- The handles whose closing has ended. -/
def closings (es : List (Event P)) : List P := es.filterMap Event.closed?

theorem closings_append (es fs : List (Event P)) :
    closings (es ++ fs) = closings es ++ closings fs := List.filterMap_append

theorem closings_api (cs : List (Call P)) : closings (cs.map .api) = [] := by
  unfold closings
  rw [List.filterMap_map, List.filterMap_eq_nil_iff]
  exact fun _ _ => rfl

variable {E : Env P} (hroom : Fintype.card P < UINT_SIZE)
include hroom

omit hroom in
theorem closed_of_closings {es : List (Event P)} (h : p ∈ closings es) : .closed p ∈ es := by
  obtain ⟨e, he, hclosed⟩ := List.mem_filterMap.mp h
  cases e with
  | closed x =>
    rw [← Option.some.inj hclosed]
    exact he
  | _ => cases hclosed

/-- A closing ends with its callback, or without one. -/
theorem uv__finish_close.spec (hl : Sound none (p :: rest) l) :
    (∃ m es, uv__finish_close E p l = .ok () m ∧ Sound none rest m ∧ Grows l es m ∧
      closings es = [p]) ∨
      ∃ m es, uv__finish_close E p l = .error .misuse m ∧ Sound none rest m ∧ Grows l es m ∧
        es ≠ [] := by
  obtain ⟨c, hg⟩ := hl
  obtain ⟨-, hclosing, hclosed, -⟩ := waiting_iff.mp ((hg.inv.flags.waits p).mp (by simp))
  have hgood := hg.finish
  have hone : Grows l [.closed p] ((finished l p).note (.closed p)) :=
    .of_log rfl (List.cons_ne_nil _ _) rfl
  unfold uv__finish_close
  rw [get_bind, if_pos ⟨hclosing, hclosed⟩, set_bind, unref_finished hroom hg.inv.counted]
  split
  · rename_i close_cb
    have hrun : callback E (.closed p) (finished l p) =
        perform (E.callback ((finished l p).note (.closed p))) ((finished l p).note (.closed p)) :=
      rfl
    rw [hrun]
    generalize hcs : E.callback ((finished l p).note (.closed p)) = cs
    cases hperform : perform cs ((finished l p).note (.closed p)) with
    | ok u m =>
      obtain ⟨hm, es, hgrows, rfl, -⟩ := (perform.phase hroom cs).ok ⟨c, hgood⟩ hperform
      refine .inl ⟨m, _, rfl, hm, hone.trans hgrows, ?_⟩
      rw [closings_append, closings_api]
      rfl
    | error e m =>
      obtain ⟨rfl, hm, done, -, hsteps⟩ := (perform.spec hroom cs none rest c).error hgood hperform
      exact .inr ⟨m, _, rfl, hm, hone.trans hsteps.grows, List.cons_ne_nil _ _⟩
  · exact .inl ⟨_, _, rfl, ⟨c, hgood⟩, hone, rfl⟩

theorem uv__finish_all.spec (ps : List P) : ∀ l, Sound none ps l →
    (∃ m es, uv__finish_all E ps l = .ok () m ∧ Sound none [] m ∧ Grows l es m ∧
      closings es = ps ∧ Stirs es) ∨
      ∃ m es, uv__finish_all E ps l = .error .misuse m ∧ (∃ rest, Sound none rest m) ∧
        Grows l es m ∧ es ≠ [] := by
  induction ps with
  | nil => exact fun l hl => .inl ⟨l, [], rfl, hl, .refl l, rfl, .inl rfl⟩
  | cons p ps ih =>
    intro l hl
    rw [uv__finish_all]
    rcases uv__finish_close.spec hroom (E := E) hl with
      ⟨n, es, hok, hn, hgrows, hclosings⟩ | ⟨n, es, herr, hn, hgrows, hes⟩
    · rw [bind_of_ok hok]
      rcases ih n hn with ⟨m, fs, hok', hm, hgrows', hclosings', -⟩ |
        ⟨m, fs, herr, hm, hgrows', hfs⟩
      · have hp : p ∈ closings es := by
          rw [hclosings]
          exact List.mem_singleton_self p
        refine .inl ⟨m, _, hok', hm, hgrows.trans hgrows', ?_,
          .inr ⟨.closed p, List.mem_append_left _ (closed_of_closings hp), rfl⟩⟩
        rw [closings_append, hclosings, hclosings']
        rfl
      · exact .inr ⟨m, _, herr, hm, hgrows.trans hgrows', by simp [hfs]⟩
    · rw [bind_of_error herr]
      exact .inr ⟨n, _, rfl, ⟨ps, hn⟩, hgrows, hes⟩

omit hroom in
theorem Good.take (hg : Good now [] c l) :
    Good now l.closing_handles c { l with closing_handles := [] } := by
  refine ⟨⟨hg.inv.counted, hg.inv.heaped, ?_, ?_⟩, ?_, hg.followed⟩
  · exact ⟨hg.inv.listed.ring, hg.inv.listed.listed, hg.inv.listed.found, hg.inv.listed.outside⟩
  · have hnodup := hg.inv.flags.nodup
    have hwaits := hg.inv.flags.waits
    rw [List.append_nil] at hnodup
    simp only [List.append_nil] at hwaits
    exact ⟨hnodup, hwaits, hg.inv.flags.sane⟩
  · exact hg.timely.shrink rfl rfl rfl le_rfl hg.timely.time fun _ h => ⟨h, rfl⟩

/-- The closings that were begun before the phase end in it, the last one first. -/
theorem uv__run_closing_handles.phase :
    Phase none [] (fun l _ es _ => closings es = l.closing_handles ∧ Stirs es)
      (uv__run_closing_handles E) := by
  have hgrows : ∀ {l m : Loop P} {es}, Grows { l with closing_handles := [] } es m →
      (es = [] → l.closing_handles = []) → Grows l es m := by
    intro l m es h hnil
    refine ⟨h.log, h.stop, fun hes => ?_⟩
    obtain ⟨hle, heq⟩ := h.quiet hes
    refine ⟨hle, heq.trans ?_⟩
    rw [hnil hes]
  have hrun : ∀ l, uv__run_closing_handles E l =
      uv__finish_all E l.closing_handles { l with closing_handles := [] } := fun _ => rfl
  refine Ends.of ?_ ?_
  · rintro l _ m ⟨c, hg⟩ h
    rw [hrun] at h
    rcases uv__finish_all.spec hroom (E := E) l.closing_handles _ ⟨c, hg.take⟩ with
      ⟨m', es, hok, hm, hgr, hclosings, hstirs⟩ | ⟨m', es, herr, -⟩
    · rw [hok] at h
      cases h
      refine ⟨hm, es, hgrows hgr ?_, hclosings, hstirs⟩
      rintro rfl
      exact hclosings.symm
    · rw [herr] at h
      cases h
  · rintro l e m ⟨c, hg⟩ h
    rw [hrun] at h
    rcases uv__finish_all.spec hroom (E := E) l.closing_handles _ ⟨c, hg.take⟩ with
      ⟨m', es, hok, -⟩ | ⟨m', es, herr, ⟨rest, hm⟩, hgr, hes⟩
    · rw [hok] at h
      cases h
    · rw [herr] at h
      cases h
      exact ⟨(by intro h; cases h), ⟨none, rest, hm⟩, es, hgrows hgr fun h => absurd h hes⟩

end

end pyuv.uvloop
