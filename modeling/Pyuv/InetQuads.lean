-- inet_pton4 takes the texts that inet_ntop4 writes, and no others: four numbers below 256 with
-- no leading zeros, between dots. Every load and store of it is inside of its array.
import Pyuv.Inet

namespace pyuv.inet

open blocks numerals

variable {os ms : List unsigned_char} {m : unsigned_char} {n d : ℕ} {src : List Char} {ch : Char}

theorem ok_bind {α β : Type} {a : α} {f : α → Except Fault β} : (Except.ok a >>= f) = f a := rfl

/-! ## The text of a quad -/

theorem dotted_singleton : dotted [m] = Nat.toDigits 10 m.toNat := by
  simp [dotted, List.intercalate]

theorem dotted_cons {m' : unsigned_char} :
    dotted (m :: m' :: ms) = Nat.toDigits 10 m.toNat ++ '.' :: dotted (m' :: ms) := by
  simp [dotted, List.intercalate]

theorem toDigits_octet_length (m : unsigned_char) : (Nat.toDigits 10 m.toNat).length ≤ 3 := by
  rw [Nat.length_toDigits_le_iff (by omega) (by omega)]
  have hlt := m.isLt
  omega

theorem dotted_length_le (m : unsigned_char) (ms : List unsigned_char) :
    (dotted (m :: ms)).length ≤ 4 * ms.length + 3 := by
  induction ms generalizing m with
  | nil =>
    rw [dotted_singleton]
    exact toDigits_octet_length m
  | cons m' ms ih =>
    have hhead := toDigits_octet_length m
    have htail := ih m'
    rw [dotted_cons, List.length_append]
    simp only [List.length_cons]
    omega

theorem dotted_length_pos (m : unsigned_char) (ms : List unsigned_char) :
    0 < (dotted (m :: ms)).length := by
  have hdigits : 0 < (Nat.toDigits 10 m.toNat).length := Nat.length_toDigits_pos
  cases ms with
  | nil =>
    rw [dotted_singleton]
    exact hdigits
  | cons m' ms =>
    rw [dotted_cons, List.length_append]
    omega

theorem digits_idxOf (hd : d < 10) : digits.idxOf? (Nat.digitChar d) = some d := by
  revert d
  decide

theorem eq_digitChar_of_idxOf (h : digits.idxOf? ch = some d) : d < 10 ∧ ch = Nat.digitChar d := by
  obtain ⟨hlt, hch, -⟩ := List.idxOf?_eq_some_iff.mp h
  have hd : d < 10 := hlt
  refine ⟨hd, ?_⟩
  rw [← hch]
  clear h hch
  revert d
  decide

/-! ## The states between two characters -/

/-- After the octets and the dot that follows them. -/
def Pton4.between (os : List unsigned_char) : Pton4 :=
  { saw_digit := false, octets := os.length, tmp := os ++ [0] }

/-- After the octets and the digits of `n`. -/
def Pton4.inside (os : List unsigned_char) (n : ℕ) : Pton4 :=
  { saw_digit := true, octets := os.length + 1, tmp := os ++ [BitVec.ofNat 8 n] }

/-- The loop over the text, and what follows it. -/
def Pton4.run (s : Pton4) (src : List Char) : Except Fault in_addr := do
  let s ← s.loop src
  s.finish

theorem Pton4.run_nil (s : Pton4) : s.run [] = s.finish := rfl

theorem Pton4.run_cons_digit (s : Pton4) (hd : d < 10) :
    s.run (Nat.digitChar d :: src) = s.digit d >>= fun s => s.run src := by
  unfold Pton4.run
  rw [Pton4.loop, digits_idxOf hd]
  dsimp only
  cases s.digit d <;> rfl

theorem Pton4.run_cons_other (s : Pton4) (h : digits.idxOf? ch = none) :
    s.run (ch :: src) =
      if ch = '.' ∧ s.saw_digit = true then
        if s.octets = 4 then .error .UV_EINVAL else s.next_octet >>= fun s => s.run src
      else .error .UV_EINVAL := by
  unfold Pton4.run
  rw [Pton4.loop, h]
  dsimp only
  by_cases hdot : ch = '.' ∧ s.saw_digit = true
  · rw [if_pos hdot, if_pos hdot]
    by_cases hfour : s.octets = 4
    · rw [if_pos hfour, if_pos hfour]
      rfl
    · rw [if_neg hfour, if_neg hfour]
      cases s.next_octet <;> rfl
  · rw [if_neg hdot, if_neg hdot]
    rfl

theorem Pton4.digit_between (hos : os.length < 4) (hd : d < 10) :
    (Pton4.between os).digit d = .ok (Pton4.inside os d) := by
  have hsmall : ¬d > 255 := by omega
  have hroom : ¬os.length + 1 > 4 := by omega
  simp [Pton4.digit, Pton4.between, Pton4.inside, Pton4.set_octet, access, ok_bind, hsmall, hroom]

/-- A digit after a 0, or one that makes the octet too large, is refused. -/
theorem Pton4.digit_inside (hn : n < 256) :
    (Pton4.inside os n).digit d =
      if n = 0 ∨ n * 10 + d > 255 then .error .UV_EINVAL
      else .ok (Pton4.inside os (n * 10 + d)) := by
  have hmod : n % 256 = n := Nat.mod_eq_of_lt hn
  have hzero : BitVec.ofNat 8 n = 0 ↔ n = 0 := by
    rw [← BitVec.toNat_inj, BitVec.toNat_ofNat]
    simp [hmod]
  by_cases h0 : n = 0
  · simp [Pton4.digit, Pton4.inside, access, ok_bind, h0]
  · by_cases hlarge : n * 10 + d > 255
    · simp [Pton4.digit, Pton4.inside, access, ok_bind, hmod, h0, hlarge]
    · have hne : ¬BitVec.ofNat 8 n = 0#8 := fun heq => h0 (hzero.mp heq)
      simp [Pton4.digit, Pton4.inside, Pton4.set_octet, access, ok_bind, hmod, hne, h0, hlarge]

theorem Pton4.next_octet_inside (hos : os.length < 3) :
    (Pton4.inside os n).next_octet = .ok (Pton4.between (os ++ [BitVec.ofNat 8 n])) := by
  have hroom : os.length + 1 < 4 := by omega
  simp [Pton4.next_octet, Pton4.inside, Pton4.between, hroom]

theorem Pton4.finish_between (hos : os.length < 4) :
    (Pton4.between os).finish = .error .UV_EINVAL := by
  have hfew : (Pton4.between os).octets < 4 := hos
  unfold Pton4.finish
  rw [if_pos hfew]

theorem Pton4.finish_inside_early (hos : os.length < 3) :
    (Pton4.inside os n).finish = .error .UV_EINVAL := by
  have hfew : (Pton4.inside os n).octets < 4 := by
    simp only [Pton4.inside]
    omega
  unfold Pton4.finish
  rw [if_pos hfew]

theorem Pton4.finish_inside_last (hos : os.length = 3) :
    ∃ a, (Pton4.inside os n).finish = .ok a ∧ a.items = os ++ [BitVec.ofNat 8 n] := by
  have hfull : ¬(Pton4.inside os n).octets < 4 := by
    simp only [Pton4.inside]
    omega
  have hlen : (os ++ [BitVec.ofNat 8 n]).length = 4 := by
    rw [List.length_append, hos]
    rfl
  have hblock : Block.ofList (Pton4.inside os n).tmp = some (⟨_, hlen⟩ : in_addr) :=
    Block.ofList_eq_some_iff.mpr rfl
  unfold Pton4.finish
  rw [if_neg hfull, hblock]
  exact ⟨_, rfl, rfl⟩

/-! ## What is accepted is a quad -/

/-- The outcome of a run that has read the octets `os` before `text`. -/
def Pton4.Outcome (os : List unsigned_char) (text : List Char) (r : Except Fault in_addr) : Prop :=
  (∃ a m ms, r = .ok a ∧ a.items = os ++ m :: ms ∧ text = dotted (m :: ms)) ∨
    r = .error .UV_EINVAL

theorem Pton4.outcome_inside_nil (hos : os.length < 4) (hn : n < 256) :
    Pton4.Outcome os (Nat.toDigits 10 n) ((Pton4.inside os n).run []) := by
  rw [Pton4.run_nil]
  by_cases hlast : os.length = 3
  · obtain ⟨a, ha, hitems⟩ := Pton4.finish_inside_last (n := n) hlast
    refine .inl ⟨a, BitVec.ofNat 8 n, [], ha, hitems, ?_⟩
    rw [dotted_singleton, BitVec.toNat_ofNat, Nat.mod_eq_of_lt hn]
  · exact .inr (Pton4.finish_inside_early (by omega))

/-- A dot ends the octet. -/
theorem Pton4.outcome_inside_dot (hos : os.length < 4) (hn : n < 256)
    (ih : ∀ os, os.length < 4 → Pton4.Outcome os src ((Pton4.between os).run src)) :
    Pton4.Outcome os (Nat.toDigits 10 n ++ '.' :: src) ((Pton4.inside os n).run ('.' :: src)) := by
  rw [Pton4.run_cons_other _ (by decide), if_pos ⟨rfl, rfl⟩]
  by_cases hfour : (Pton4.inside os n).octets = 4
  · rw [if_pos hfour]
    exact .inr rfl
  · have hlt : os.length < 3 := by
      simp only [Pton4.inside] at hfour
      omega
    rw [if_neg hfour, Pton4.next_octet_inside hlt, ok_bind]
    have hlen : (os ++ [BitVec.ofNat 8 n]).length < 4 := by
      rw [List.length_append, List.length_singleton]
      omega
    rcases ih _ hlen with ⟨a, m, ms, ha, hitems, rfl⟩ | he
    · refine .inl ⟨a, BitVec.ofNat 8 n, m :: ms, ha, ?_, ?_⟩
      · rw [hitems, List.append_assoc, List.singleton_append]
      · rw [dotted_cons, BitVec.toNat_ofNat, Nat.mod_eq_of_lt hn]
    · exact .inr he

theorem Pton4.outcome (src : List Char) :
    (∀ os n, os.length < 4 → n < 256 →
      Pton4.Outcome os (Nat.toDigits 10 n ++ src) ((Pton4.inside os n).run src)) ∧
    ∀ os, os.length < 4 → Pton4.Outcome os src ((Pton4.between os).run src) := by
  induction src with
  | nil =>
    constructor
    · intro os n hos hn
      rw [List.append_nil]
      exact Pton4.outcome_inside_nil hos hn
    · intro os hos
      exact .inr (Pton4.finish_between hos)
  | cons ch src ih =>
    obtain ⟨ih_inside, ih_between⟩ := ih
    rcases hdigit : digits.idxOf? ch with _ | d
    · constructor
      · intro os n hos hn
        by_cases hdot : ch = '.'
        · subst hdot
          exact Pton4.outcome_inside_dot hos hn ih_between
        · rw [Pton4.run_cons_other _ hdigit, if_neg (fun h => hdot h.1)]
          exact .inr rfl
      · intro os hos
        rw [Pton4.run_cons_other _ hdigit, if_neg (fun h => Bool.false_ne_true h.2)]
        exact .inr rfl
    · obtain ⟨hd, rfl⟩ := eq_digitChar_of_idxOf hdigit
      constructor
      · intro os n hos hn
        rw [Pton4.run_cons_digit _ hd, Pton4.digit_inside hn]
        by_cases hbad : n = 0 ∨ n * 10 + d > 255
        · rw [if_pos hbad]
          exact .inr rfl
        · rw [if_neg hbad, ok_bind]
          have hstep := ih_inside os (n * 10 + d) hos (by omega)
          rw [← toDigits_push (by omega) (by omega) hd, List.append_assoc] at hstep
          exact hstep
      · intro os hos
        rw [Pton4.run_cons_digit _ hd, Pton4.digit_between hos hd, ok_bind]
        have hstep := ih_inside os d hos (by omega)
        rw [Nat.toDigits_of_lt_base hd] at hstep
        exact hstep

/-! ## Every quad is accepted -/

theorem ofNat_toNat (m : unsigned_char) : BitVec.ofNat 8 m.toNat = m := by simp

/-- The digits of an octet are read as the octet. -/
theorem Pton4.run_toDigits (hos : os.length < 4) (n : ℕ) :
    n < 256 → ∀ src, (Pton4.between os).run (Nat.toDigits 10 n ++ src) =
      (Pton4.inside os n).run src := by
  refine toDigits_induction (motive := fun n cs => n < 256 →
    ∀ src, (Pton4.between os).run (cs ++ src) = (Pton4.inside os n).run src) (by omega) ?_ ?_ n
  · intro d hd _ src
    rw [List.singleton_append, Pton4.run_cons_digit _ hd, Pton4.digit_between hos hd, ok_bind]
  · intro n d hpos hd ih hlt src
    have hgood : ¬(n = 0 ∨ n * 10 + d > 255) := by omega
    rw [List.append_assoc, ih (by omega), List.singleton_append, Pton4.run_cons_digit _ hd,
      Pton4.digit_inside (by omega), if_neg hgood, ok_bind]

theorem Pton4.run_dotted (m : unsigned_char) (ms : List unsigned_char)
    (hlen : os.length + ms.length = 3) :
    ∃ a, (Pton4.between os).run (dotted (m :: ms)) = .ok a ∧ a.items = os ++ m :: ms := by
  induction ms generalizing os m with
  | nil =>
    rw [List.length_nil, Nat.add_zero] at hlen
    have hfour : os.length < 4 := by omega
    have hread := Pton4.run_toDigits hfour m.toNat m.isLt []
    rw [List.append_nil] at hread
    obtain ⟨a, ha, hitems⟩ := Pton4.finish_inside_last (n := m.toNat) hlen
    rw [dotted_singleton, hread, Pton4.run_nil]
    exact ⟨a, ha, by rw [hitems, ofNat_toNat]⟩
  | cons m' ms ih =>
    rw [List.length_cons] at hlen
    have hroom : os.length < 4 := by omega
    have hread := Pton4.run_toDigits hroom m.toNat m.isLt ('.' :: dotted (m' :: ms))
    have hfour : ¬(Pton4.inside os m.toNat).octets = 4 := by
      simp only [Pton4.inside]
      omega
    have hrest : (os ++ [m]).length + ms.length = 3 := by
      rw [List.length_append, List.length_singleton]
      omega
    obtain ⟨a, ha, hitems⟩ := ih m' hrest
    rw [dotted_cons, hread, Pton4.run_cons_other _ (by decide), if_pos ⟨rfl, rfl⟩, if_neg hfour,
      Pton4.next_octet_inside (by omega), ok_bind, ofNat_toNat]
    exact ⟨a, ha, by rw [hitems, List.append_assoc, List.singleton_append]⟩

/-! ## The law -/

theorem in_addr_items (a : in_addr) : ∃ m ms, a.items = m :: ms ∧ ms.length = 3 := by
  obtain ⟨items, hsized⟩ := a
  cases items with
  | nil => cases hsized
  | cons m ms => exact ⟨m, ms, rfl, Nat.succ.inj hsized⟩

theorem inet_pton4_eq_run : inet_pton4 src = (Pton4.between []).run src := rfl

theorem inet_pton4_ok_or_einval (src : List Char) :
    (∃ a, inet_pton4 src = .ok a ∧ src = dotted a.items) ∨ inet_pton4 src = .error .UV_EINVAL := by
  rw [inet_pton4_eq_run]
  rcases (Pton4.outcome src).2 [] (by decide) with ⟨a, m, ms, ha, hitems, hsrc⟩ | he
  · rw [List.nil_append] at hitems
    exact .inl ⟨a, ha, by rw [hitems, hsrc]⟩
  · exact .inr he

theorem inet_pton4_dotted (a : in_addr) : inet_pton4 (dotted a.items) = .ok a := by
  obtain ⟨m, ms, hitems, hlen⟩ := in_addr_items a
  have hfour : ([] : List unsigned_char).length + ms.length = 3 := by simpa using hlen
  obtain ⟨b, hb, hb_items⟩ := Pton4.run_dotted m ms hfour
  rw [inet_pton4_eq_run, hitems, hb]
  congr 1
  exact Block.ext (by rw [hb_items, hitems, List.nil_append])

theorem inet_pton4_eq_ok_iff {a : in_addr} : inet_pton4 src = .ok a ↔ src = dotted a.items := by
  constructor
  · intro h
    rcases inet_pton4_ok_or_einval src with ⟨b, hb, hsrc⟩ | he
    · rw [hb] at h
      cases h
      exact hsrc
    · rw [he] at h
      cases h
  · rintro rfl
    exact inet_pton4_dotted a

theorem inet_ntop4_eq (a : in_addr) (size : ℕ) :
    inet_ntop4 a size =
      if (dotted a.items).length < size then .ok (dotted a.items) else .error .UV_ENOSPC := by
  obtain ⟨m, ms, hitems, hlen⟩ := in_addr_items a
  have hpos := dotted_length_pos m ms
  have hle := dotted_length_le m ms
  rw [hlen] at hle
  rw [← hitems] at hpos hle
  have htake : (dotted a.items).take (UV__INET_ADDRSTRLEN - 1) = dotted a.items :=
    List.take_of_length_le hle
  unfold inet_ntop4
  rw [htake]
  by_cases hsize : (dotted a.items).length < size
  · rw [if_pos hsize, if_neg (by omega)]
  · rw [if_neg hsize, if_pos (by omega)]

/-- The texts that are accepted are the ones that are written, each for its own address, and
what is not accepted is refused with UV_EINVAL: no access is outside of an array. -/
theorem quads_are_read_as_written (src : List Char) :
    (∀ a : in_addr, inet_pton4 src = .ok a ↔ inet_ntop4 a UV__INET_ADDRSTRLEN = .ok src) ∧
      ((∀ a : in_addr, inet_ntop4 a UV__INET_ADDRSTRLEN ≠ .ok src) →
        inet_pton4 src = .error .UV_EINVAL) := by
  have hwritten : ∀ a : in_addr, inet_ntop4 a UV__INET_ADDRSTRLEN = .ok (dotted a.items) := by
    intro a
    obtain ⟨m, ms, hitems, hlen⟩ := in_addr_items a
    have hle := dotted_length_le m ms
    rw [hlen, ← hitems] at hle
    rw [inet_ntop4_eq, if_pos (by unfold UV__INET_ADDRSTRLEN; omega)]
  constructor
  · intro a
    rw [inet_pton4_eq_ok_iff, hwritten a]
    constructor
    · rintro rfl
      rfl
    · intro h
      cases h
      rfl
  · intro hnone
    rcases inet_pton4_ok_or_einval src with ⟨a, -, hsrc⟩ | he
    · exact absurd (by rw [hwritten a, hsrc]) (hnone a)
    · exact he

end pyuv.inet
