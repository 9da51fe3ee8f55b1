-- inet_ntop6 writes the words of an address in hexadecimal, with "::" for the first longest run
-- of zero words, and inet_pton6 reads each address back from what is written for it.
import Pyuv.InetTexts
import Pyuv.Lib.LongestRuns

namespace pyuv.inet

open blocks numerals longest_runs

variable {z : ℕ → Prop} {i k b l : ℕ} {ws : List ℕ} {best cur : Run} {src : in6_addr}
  {tmp : List Char}

/-! ## The run of zeros -/

/-- The run, where there is one. -/
def Run.stretch (r : Run) : Option (ℕ × ℕ) := r.base.map fun base => (base, r.len)

theorem Run.stretch_better (hcur : cur.base ≠ none) :
    (best.better cur).stretch = longest_runs.better best.stretch cur.stretch := by
  obtain ⟨base, len⟩ := cur
  obtain ⟨base', len'⟩ := best
  rcases base with _ | base
  · exact absurd rfl hcur
  · rcases base' with _ | base'
    · simp [Run.better, Run.stretch, longest_runs.better]
    · by_cases hlonger : len > len'
      · simp [Run.better, Run.stretch, longest_runs.better, hlonger]
      · simp [Run.better, Run.stretch, longest_runs.better, hlonger]

theorem Run.stretch_eq_none {r : Run} (h : r.base = none) : r.stretch = none := by
  rw [Run.stretch, h]
  rfl

theorem find_step_scanned {s : Run × Run} {w : ℕ} (hz : z i ↔ w = 0)
    (h : Scanned z i s.1.stretch s.2.stretch) :
    Scanned z (i + 1) (find_step s i w).1.stretch (find_step s i w).2.stretch := by
  obtain ⟨best, base, len⟩ := s
  unfold find_step
  by_cases hw : w = 0
  · rw [if_pos hw]
    rcases base with _ | base
    · rw [if_pos rfl]
      exact h.start (hz.mpr hw)
    · rw [if_neg (Option.some_ne_none base)]
      exact h.extend (hz.mpr hw)
  · have hnot : ¬z i := fun hzi => hw (hz.mp hzi)
    rw [if_neg hw]
    rcases base with _ | base
    · rw [if_neg (not_not_intro rfl)]
      exact ⟨h.1.succ hnot, fun j hj => by rwa [Nat.succ.inj hj]⟩
    · have hopen : (({ base := some base, len := len } : Run)).base ≠ none :=
        Option.some_ne_none base
      rw [if_pos hopen, Run.stretch_better hopen]
      exact h.close hnot

theorem find_loop_scanned {s : Run × Run} (hz : ∀ j w, ws[j]? = some w → (z (i + j) ↔ w = 0))
    (h : Scanned z i s.1.stretch s.2.stretch) :
    Scanned z (i + ws.length) (find_loop s i ws).1.stretch (find_loop s i ws).2.stretch := by
  induction ws generalizing s i with
  | nil => exact h
  | cons w ws ih =>
    have hstep := find_step_scanned (hz 0 w rfl) h
    have hrest : ∀ j w', ws[j]? = some w' → (z (i + 1 + j) ↔ w' = 0) := by
      intro j w' hw'
      have hplace := hz (j + 1) w' (by simpa using hw')
      rwa [← Nat.add_assoc, Nat.add_right_comm] at hplace
    have hdone := ih hrest hstep
    rw [List.length_cons, ← Nat.add_assoc, Nat.add_right_comm]
    exact hdone

/-- What "::" stands for: the first longest run of zero words, if it has two words. -/
def IsGap (z : ℕ → Prop) (n : ℕ) (gap : Option (ℕ × ℕ)) : Prop :=
  ∃ best, Longest z n best ∧ gap = best.filter (fun run => 2 ≤ run.2)

theorem IsGap.unique {n : ℕ} {gap gap' : Option (ℕ × ℕ)} (h : IsGap z n gap) (h' : IsGap z n gap') :
    gap = gap' := by
  obtain ⟨best, hbest, rfl⟩ := h
  obtain ⟨best', hbest', rfl⟩ := h'
  rw [hbest.unique hbest']

theorem find_best_is_gap (hz : ∀ j w, ws[j]? = some w → (z j ↔ w = 0)) :
    IsGap z ws.length (find_best ws).stretch := by
  have hloop := find_loop_scanned (s := ({ base := none, len := 0 }, { base := none, len := 0 }))
    (i := 0) (fun j w hw => by rw [Nat.zero_add]; exact hz j w hw) (Scanned.zero z)
  rw [Nat.zero_add] at hloop
  unfold find_best
  generalize find_loop ({ base := none, len := 0 }, { base := none, len := 0 }) 0 ws = s at hloop
  refine ⟨longest_runs.better s.1.stretch s.2.stretch, hloop.longest, ?_⟩
  dsimp only
  have hpick : longest_runs.better s.1.stretch s.2.stretch =
      (if s.2.base ≠ none then s.1.better s.2 else s.1).stretch := by
    by_cases hopen : s.2.base ≠ none
    · rw [if_pos hopen, Run.stretch_better hopen]
    · rw [if_neg hopen, Run.stretch_eq_none (not_not.mp hopen)]
      cases s.1.stretch <;> rfl
  rw [hpick]
  generalize (if s.2.base ≠ none then s.1.better s.2 else s.1) = best
  obtain ⟨base, len⟩ := best
  rcases base with _ | base
  · simp [Run.stretch]
  · by_cases hlen : len < 2
    · have hshort : ¬2 ≤ len := by omega
      simp [Run.stretch, Option.filter, hlen, hshort]
    · have hlong : 2 ≤ len := by omega
      simp [Run.stretch, Option.filter, hlen, hlong]

/-! ## The words -/

theorem word_eq (src : in6_addr) (i : ℕ) :
    word src i = (src.items[2 * i]?.getD 0).toNat * 256 + (src.items[2 * i + 1]?.getD 0).toNat := by
  have hlow := (src.items[2 * i + 1]?.getD 0).isLt
  have hor := Nat.shiftLeft_add_eq_or_of_lt (i := 8) hlow (src.items[2 * i]?.getD 0).toNat
  rw [word, ← hor, Nat.shiftLeft_eq]

theorem word_lt (src : in6_addr) (i : ℕ) : word src i < 65536 := by
  have hhigh := (src.items[2 * i]?.getD 0).isLt
  have hlow := (src.items[2 * i + 1]?.getD 0).isLt
  rw [word_eq]
  omega

/-- The two bytes of a word are the ones that it is made of. -/
theorem word_bytes_word (src : in6_addr) (i : ℕ) :
    word_bytes (word src i) = [src.items[2 * i]?.getD 0, src.items[2 * i + 1]?.getD 0] := by
  have hhigh := (src.items[2 * i]?.getD 0).isLt
  have hlow := (src.items[2 * i + 1]?.getD 0).isLt
  have hdiv : word src i / 256 = (src.items[2 * i]?.getD 0).toNat := by
    rw [word_eq]
    omega
  have hmod : word src i % 256 = (src.items[2 * i + 1]?.getD 0).toNat := by
    rw [word_eq]
    omega
  unfold word_bytes
  congr 1
  · apply BitVec.eq_of_toNat_eq
    rw [BitVec.toNat_ofNat, Nat.shiftRight_eq_div_pow, hdiv]
    exact Nat.mod_eq_of_lt hhigh
  · congr 1
    apply BitVec.eq_of_toNat_eq
    rw [BitVec.toNat_ofNat]
    exact hmod

/-- A list of even length, two items at a time. -/
theorem pairs_eq {xs : List unsigned_char} {n : ℕ} (h : xs.length = 2 * n) :
    (List.range' 0 n).flatMap (fun i => [xs[2 * i]?.getD 0, xs[2 * i + 1]?.getD 0]) = xs := by
  induction n generalizing xs with
  | zero =>
    rw [List.length_eq_zero_iff.mp h]
    rfl
  | succ n ih =>
    rcases xs with _ | ⟨x, _ | ⟨y, ys⟩⟩
    · cases h
    · simp only [List.length_singleton] at h
      omega
    · have hys : ys.length = 2 * n := by
        simp only [List.length_cons] at h
        omega
      have hrest := ih hys
      rw [List.range'_succ, List.flatMap_cons, Nat.zero_add, List.range'_eq_map_range,
        List.flatMap_map]
      rw [← List.range_eq_range'] at hrest
      have hplace : ∀ i, 2 * (1 + i) = 2 * i + 2 := by
        intro i
        omega
      simpa [hplace] using hrest

theorem items_eq_words (src : in6_addr) :
    src.items = (List.range' 0 8).flatMap fun i => word_bytes (word src i) := by
  simp only [word_bytes_word]
  exact (pairs_eq src.sized).symm

/-- The numeral of a word is a group. -/
def hex_group (src : in6_addr) (i : ℕ) : Group where
  digits := Nat.toDigits 16 (word src i)
  not_empty := Nat.toDigits_ne_nil
  short := by
    rw [Nat.length_toDigits_le_iff (by omega) (by omega)]
    exact word_lt src i
  hex := by
    intro c hc
    obtain ⟨d, hd, rfl⟩ := mem_toDigits (by omega) hc
    exact ⟨d, xdigit_digitChar hd⟩

theorem hex_group_bytes (src : in6_addr) (i : ℕ) :
    (hex_group src i).bytes = word_bytes (word src i) := by
  rw [Group.bytes, hex_group, value_toDigits (by omega) (fun d hd => xdigit_digitChar hd)]

/-- The groups of the words from the i-th on, `n` of them. -/
def hex_groups (src : in6_addr) (i n : ℕ) : List Group := (List.range' i n).map (hex_group src)

theorem left_bytes_hex_groups (src : in6_addr) (i n : ℕ) :
    left_bytes (hex_groups src i n) =
      (List.range' i n).flatMap fun i => word_bytes (word src i) := by
  rw [left_bytes, hex_groups, List.flatMap_map]
  simp only [hex_group_bytes]

theorem left_bytes_length (gs : List Group) : (left_bytes gs).length = 2 * gs.length := by
  induction gs with
  | nil => rfl
  | cons g gs ih =>
    rw [left_bytes, List.flatMap_cons, List.length_append, g.bytes_length, List.length_cons]
    rw [left_bytes] at ih
    omega

theorem zero_words {b l : ℕ} (h : IsRun (fun i => word src i = 0) b l) :
    left_bytes (hex_groups src b l) = List.replicate (2 * l) 0 := by
  obtain ⟨-, hzero⟩ := h
  rw [List.eq_replicate_iff, left_bytes_length, hex_groups]
  refine ⟨by simp, ?_⟩
  intro c hc
  simp only [left_bytes, List.mem_flatMap, List.mem_map, List.mem_range'_1] at hc
  obtain ⟨g, ⟨i, ⟨hle, hlt⟩, rfl⟩, hc⟩ := hc
  rw [hex_group_bytes, hzero i hle hlt] at hc
  revert hc c
  decide

/-! ## The text of the words around a gap -/

/-- Groups before a tail, which can be missing. -/
def before : List Group → Option Tail → Option Tail
  | [], last => last
  | g :: gs, last => some (((before gs last).map (Tail.cons g)).getD (.group g))

theorem rest_bytes_before (gs : List Group) (last : Option Tail) :
    rest_bytes (before gs last) = left_bytes gs ++ rest_bytes last := by
  induction gs with
  | nil => rfl
  | cons g gs ih =>
    have hcons : left_bytes (g :: gs) = g.bytes ++ left_bytes gs := by
      simp [left_bytes]
    rw [hcons, List.append_assoc, ← ih, before]
    cases before gs last with
    | none => exact (List.append_nil _).symm
    | some t => rfl

/-- A tail after a colon, if it is there. -/
def led (last : Option Tail) : List Char := (last.map fun t => ':' :: t.text).getD []

theorem led_before (gs : List Group) (last : Option Tail) :
    led (before gs last) = gs.flatMap (fun g => ':' :: g.digits) ++ led last := by
  induction gs with
  | nil => rfl
  | cons g gs ih =>
    rw [List.flatMap_cons, List.append_assoc, ← ih, before]
    cases before gs last with
    | none => exact (List.append_nil _).symm
    | some t => rfl

theorem left_text_cons (g : Group) (gs : List Group) :
    left_text (g :: gs) = g.digits ++ gs.flatMap (fun g => ':' :: g.digits) := by
  induction gs generalizing g with
  | nil => simp [left_text, List.intercalate]
  | cons g' gs ih =>
    rw [List.flatMap_cons, List.cons_append, ← ih g']
    simp [left_text, List.intercalate]

/-- Whether the last two words are written as a quad, where the gap is `l` words from `b` on. -/
def quad_after (src : in6_addr) (b l : ℕ) : Bool :=
  b = 0 && (l = 6 || (l = 5 && word src 5 = 0xffff))

theorem quad_after_gap (h : quad_after src b l = true) : b = 0 ∧ (l = 6 ∨ l = 5) := by
  simp only [quad_after, Bool.and_eq_true, Bool.or_eq_true, decide_eq_true_eq] at h
  omega

/-- What is written after the gap. -/
def right_part (src : in6_addr) (b l : ℕ) : Option Tail :=
  if quad_after src b l then
    before (hex_groups src (b + l) (6 - (b + l))) (some (.quad (last4 src)))
  else before (hex_groups src (b + l) (8 - (b + l))) none

/-- The text of an address with a gap at the given words. -/
def text_around (src : in6_addr) : Option (ℕ × ℕ) → List Char
  | none => rest_text (before (hex_groups src 0 8) none)
  | some (b, l) => left_text (hex_groups src 0 b) ++ ':' :: ':' :: rest_text (right_part src b l)

theorem last4_items (src : in6_addr) : (last4 src).items = left_bytes (hex_groups src 6 2) := by
  have hdrop : (last4 src).items = src.items.drop 12 := rfl
  rw [left_bytes_hex_groups, hdrop, items_eq_words]
  rfl

theorem hex_groups_append (src : in6_addr) (i m n : ℕ) :
    hex_groups src i m ++ hex_groups src (i + m) n = hex_groups src i (m + n) := by
  rw [hex_groups, hex_groups, hex_groups, ← List.map_append, List.range'_append_1]

theorem left_bytes_append (gs hs : List Group) :
    left_bytes (gs ++ hs) = left_bytes gs ++ left_bytes hs :=
  List.flatMap_append

theorem items_eq_groups (src : in6_addr) : src.items = left_bytes (hex_groups src 0 8) := by
  rw [left_bytes_hex_groups]
  exact items_eq_words src

theorem gap_filled_append (left right : List unsigned_char) :
    gap_filled left.length (left ++ right) =
      left ++ List.replicate (16 - (left ++ right).length) 0 ++ right := by
  rw [gap_filled, List.take_left, List.drop_left]

/-- A quad is the last two words. -/
theorem rest_bytes_right_part {b l : ℕ} (hle : b + l ≤ 8) :
    rest_bytes (right_part src b l) = left_bytes (hex_groups src (b + l) (8 - (b + l))) := by
  unfold right_part
  by_cases hquad : quad_after src b l = true
  · have hcase := quad_after_gap hquad
    have hcount : 8 - (b + l) = 6 - (b + l) + 2 := by omega
    have hplace : b + l + (6 - (b + l)) = 6 := by omega
    have hlast : rest_bytes (some (.quad (last4 src))) = left_bytes (hex_groups src 6 2) :=
      last4_items src
    rw [if_pos hquad, rest_bytes_before, hlast, hcount, ← hex_groups_append, hplace,
      left_bytes_append]
  · rw [if_neg hquad, rest_bytes_before]
    exact List.append_nil _

/-- The bytes on both sides of a run of zeros, with zeros in between. -/
theorem gap_filled_around {b l : ℕ} (hrun : IsRun (fun i => word src i = 0) b l) (hle : b + l ≤ 8) :
    (left_bytes (hex_groups src 0 b) ++ rest_bytes (right_part src b l)).length < 16 ∧
      gap_filled (left_bytes (hex_groups src 0 b)).length
        (left_bytes (hex_groups src 0 b) ++ rest_bytes (right_part src b l)) = src.items := by
  have hlen : (left_bytes (hex_groups src 0 b) ++
      left_bytes (hex_groups src (b + l) (8 - (b + l)))).length = 16 - 2 * l := by
    simp [left_bytes_length, hex_groups]
    omega
  have hpos := hrun.1
  rw [rest_bytes_right_part hle]
  refine ⟨by omega, ?_⟩
  have hzeros : 16 - (16 - 2 * l) = 2 * l := by omega
  have hcount : 8 = 0 + b + (l + (8 - (b + l))) := by omega
  rw [gap_filled_append, hlen, hzeros, ← zero_words hrun, items_eq_groups src, List.append_assoc,
    ← left_bytes_append, ← left_bytes_append, hex_groups_append]
  conv_rhs => rw [hcount, Nat.zero_add, ← hex_groups_append, Nat.zero_add]

/-- The text around the gap is a text of the address. -/
theorem text_around_is_text {gap : Option (ℕ × ℕ)} (h : IsGap (fun i => word src i = 0) 8 gap) :
    ∃ t : Text6, t.text = text_around src gap ∧ t.address = src := by
  obtain ⟨best, hlongest, rfl⟩ := h
  by_cases hgap : ∃ run, best = some run ∧ 2 ≤ run.2
  · obtain ⟨⟨b, l⟩, rfl, hlong⟩ := hgap
    obtain ⟨hrun, hle, -⟩ := hlongest
    obtain ⟨hlt, hfilled⟩ := gap_filled_around hrun hle
    have hsome : (some (b, l)).filter (fun run => 2 ≤ run.2) = some (b, l) :=
      if_pos (decide_eq_true hlong)
    rw [hsome]
    exact ⟨.gapped (hex_groups src 0 b) (right_part src b l) hlt, rfl, Block.ext hfilled⟩
  · have hnone : best.filter (fun run => 2 ≤ run.2) = none := by
      rcases best with _ | run
      · rfl
      · have hshort : ¬2 ≤ run.2 := fun hlong => hgap ⟨run, rfl, hlong⟩
        exact if_neg fun h => hshort (of_decide_eq_true h)
    have hall : rest_bytes (before (hex_groups src 0 8) none) = src.items := by
      rw [rest_bytes_before, items_eq_groups]
      exact List.append_nil _
    obtain ⟨t, ht⟩ : ∃ t, before (hex_groups src 0 8) none = some t := ⟨_, rfl⟩
    have hbytes : t.bytes = src.items := by
      rw [← hall, ht]
      rfl
    rw [hnone]
    refine ⟨.full t (by rw [hbytes, src.sized]), ?_, Block.ext hbytes⟩
    rw [text_around, ht]
    rfl

/-! ## What is written -/

/-- A word that is written in hexadecimal. -/
structure Plain (src : in6_addr) (best : Run) (j : ℕ) : Prop where
  outside : best.inside j = false
  no_quad : encapsulated best (words src) j = false

theorem write_words_word (h : Plain src best i) (hi : i ≠ 0) (tmp : List Char) :
    write_words src best i (word src i :: ws) tmp =
      write_words src best (i + 1) ws (tmp ++ ':' :: (hex_group src i).digits) := by
  rw [write_words, if_neg (Bool.eq_false_iff.mp h.outside)]
  dsimp only
  rw [if_pos hi, if_neg (Bool.eq_false_iff.mp h.no_quad), List.append_assoc, List.singleton_append]
  rfl

/-- The first word has no colon before it. -/
theorem write_words_first (h : Plain src best 0) (tmp : List Char) :
    write_words src best 0 (word src 0 :: ws) tmp =
      write_words src best 1 ws (tmp ++ (hex_group src 0).digits) := by
  rw [write_words, if_neg (Bool.eq_false_iff.mp h.outside)]
  dsimp only
  rw [if_neg (not_not_intro rfl), if_neg (Bool.eq_false_iff.mp h.no_quad)]
  rfl

theorem write_words_plain {n : ℕ} (hi : i ≠ 0) (hplain : ∀ j, i ≤ j → j < i + n → Plain src best j)
    (ws : List ℕ) (tmp : List Char) :
    write_words src best i ((List.range' i n).map (word src) ++ ws) tmp =
      write_words src best (i + n) ws
        (tmp ++ (hex_groups src i n).flatMap fun g => ':' :: g.digits) := by
  induction n generalizing i tmp with
  | zero => simp [hex_groups]
  | succ n ih =>
    have hnext := ih (i := i + 1) (by omega) (fun j hle hlt => hplain j (by omega) (by omega))
      (tmp ++ ':' :: (hex_group src i).digits)
    have hcount : i + (n + 1) = i + 1 + n := by omega
    rw [List.range'_succ, List.map_cons, List.cons_append,
      write_words_word (hplain i (Nat.le_refl i) (by omega)) hi, hnext, hcount]
    simp [hex_groups, List.range'_succ]

theorem write_words_from_start {n : ℕ} (hplain : ∀ j, j < n → Plain src best j) (ws : List ℕ) :
    write_words src best 0 ((List.range' 0 n).map (word src) ++ ws) [] =
      write_words src best n ws (left_text (hex_groups src 0 n)) := by
  cases n with
  | zero => rfl
  | succ n =>
    have hafter : ∀ j, 1 ≤ j → j < 1 + n → Plain src best j := fun j _ hlt => hplain j (by omega)
    have hrest := write_words_plain (by omega) hafter ws (hex_group src 0).digits
    have hgroups : hex_groups src 0 (n + 1) = hex_group src 0 :: hex_groups src 1 n := by
      simp [hex_groups, List.range'_succ]
    rw [List.range'_succ, List.map_cons, List.cons_append, write_words_first (hplain 0 (by omega)),
      List.nil_append, hrest, hgroups, left_text_cons, Nat.add_comm 1 n]

/-- A run of zeros is a colon. -/
theorem write_words_gap (hbase : best.base = some b) (hlen : best.len = l) (hpos : 0 < l)
    (tmp : List Char) :
    write_words src best b ((List.range' b l).map (word src) ++ ws) tmp =
      write_words src best (b + l) ws (tmp ++ [':']) := by
  have hinside : ∀ j, b ≤ j → j < b + l → best.inside j = true := by
    intro j hle hlt
    simp [Run.inside, hbase, hlen, hle, hlt]
  have hmore : ∀ n i tmp, b < i → i + n ≤ b + l →
      write_words src best i ((List.range' i n).map (word src) ++ ws) tmp =
        write_words src best (i + n) ws tmp := by
    intro n
    induction n with
    | zero =>
      intro i tmp _ _
      rfl
    | succ n ih =>
      intro i tmp hlt hle
      have hbase' : best.base ≠ some i := by
        rw [hbase]
        intro heq
        exact Nat.ne_of_lt hlt (Option.some.inj heq)
      have hcount : i + (n + 1) = i + 1 + n := by omega
      rw [List.range'_succ, List.map_cons, List.cons_append, write_words,
        if_pos (hinside i (by omega) (by omega)), if_neg hbase',
          ih (i + 1) tmp (by omega) (by omega),
        hcount]
  obtain ⟨n, rfl⟩ : ∃ n, l = n + 1 := ⟨l - 1, by omega⟩
  have hcount : b + (n + 1) = b + 1 + n := by omega
  rw [List.range'_succ, List.map_cons, List.cons_append, write_words,
    if_pos (hinside b (Nat.le_refl b) (by omega)), if_pos hbase,
    hmore n (b + 1) _ (by omega) (by omega), hcount]

theorem words_eq (src : in6_addr) : words src = (List.range' 0 8).map (word src) := rfl

/-- Only the words from 6 on are written as a quad, after a gap of the words before them. -/
theorem encapsulated_iff (hbase : best.base = some b) (hlen : best.len = l) (hi : b + l ≤ i) :
    encapsulated best (words src) i = true ↔ i = 6 ∧ quad_after src b l = true := by
  have hfive : (words src)[5]? = some (word src 5) := rfl
  simp only [encapsulated, quad_after, hbase, hlen, hfive, Bool.and_eq_true, Bool.or_eq_true,
    decide_eq_true_eq, Option.some.injEq]
  constructor
  · rintro ⟨⟨rfl, rfl⟩, (hsix | ⟨hseven, -⟩) | hfive⟩
    · exact ⟨rfl, rfl, .inl hsix⟩
    · omega
    · exact ⟨rfl, rfl, .inr hfive⟩
  · rintro ⟨rfl, rfl, hsix | hfive⟩
    · exact ⟨⟨rfl, rfl⟩, .inl (.inl hsix)⟩
    · exact ⟨⟨rfl, rfl⟩, .inr hfive⟩

theorem plain_before (hbase : best.base = some b) (hi : i < b) : Plain src best i := by
  constructor
  · have hnot : ¬b ≤ i := by omega
    simp [Run.inside, hbase, hnot]
  · have hnot : ¬b = 0 := by omega
    simp [encapsulated, hbase, hnot]

theorem plain_after (hbase : best.base = some b) (hlen : best.len = l) (hi : b + l ≤ i)
    (hquad : ¬(i = 6 ∧ quad_after src b l = true)) : Plain src best i := by
  constructor
  · have hnot : ¬i < b + l := by omega
    simp [Run.inside, hbase, hlen, hnot]
  · rw [Bool.eq_false_iff, Ne, encapsulated_iff hbase hlen hi]
    exact hquad

theorem dotted_length_lt (a : in_addr) : (dotted a.items).length < UV__INET_ADDRSTRLEN := by
  obtain ⟨m, ms, hitems, hlen⟩ := in_addr_items a
  have hle := dotted_length_le m ms
  rw [hlen, ← hitems] at hle
  unfold UV__INET_ADDRSTRLEN
  omega

theorem write_words_quad (hbase : best.base = some b) (hlen : best.len = l) (hle : b + l ≤ 6)
    (hquad : quad_after src b l = true) (ws : List ℕ) (htmp : tmp.length ≤ 20) :
    write_words src best 6 (word src 6 :: ws) tmp =
      .ok (tmp ++ ':' :: dotted (last4 src).items) := by
  have houtside : best.inside 6 = false := by
    have hnot : ¬6 < b + l := by omega
    simp [Run.inside, hbase, hlen, hnot]
  have henc : encapsulated best (words src) 6 = true :=
    (encapsulated_iff hbase hlen hle).mpr ⟨rfl, hquad⟩
  have hroom : (dotted (last4 src).items).length <
    UV__INET6_ADDRSTRLEN - (tmp ++ [':']).length := by
    have hlt := dotted_length_lt (last4 src)
    rw [List.length_append, List.length_singleton]
    unfold UV__INET_ADDRSTRLEN at hlt
    unfold UV__INET6_ADDRSTRLEN
    omega
  rw [write_words, if_neg (Bool.eq_false_iff.mp houtside)]
  dsimp only
  have hsix : (6 : ℕ) ≠ 0 := by decide
  rw [if_pos henc, if_pos hsix, inet_ntop4_eq, if_pos hroom, ok_bind, List.append_assoc,
    List.singleton_append]
  rfl

theorem hex_groups_text_length_le (src : in6_addr) (i n : ℕ) :
    ((hex_groups src i n).flatMap fun g => ':' :: g.digits).length ≤ 5 * n := by
  induction n generalizing i with
  | zero => simp [hex_groups]
  | succ n ih =>
    have hrest := ih (i + 1)
    have hfirst := (hex_group src i).short
    have hgroups : hex_groups src i (n + 1) = hex_group src i :: hex_groups src (i + 1) n := by
      simp [hex_groups, List.range'_succ]
    rw [hgroups, List.flatMap_cons, List.length_append, List.length_cons]
    omega

/-- What is written after the gap, with the colons before it. -/
theorem write_words_right (hbase : best.base = some b) (hlen : best.len = l) (hpos : 0 < l)
    (hle : b + l ≤ 8) {left : List Char} (hleft : b = 0 → left = []) :
    write_words src best (b + l) ((List.range' (b + l) (8 - (b + l))).map (word src))
        (left ++ [':']) =
      .ok (left ++ ':' :: led (right_part src b l)) := by
  by_cases hquad : quad_after src b l = true
  · have hcase := quad_after_gap hquad
    have hplain : ∀ j, b + l ≤ j → j < b + l + (6 - (b + l)) → Plain src best j := by
      intro j hj hlt
      exact plain_after hbase hlen hj (by omega)
    have hcount : 8 - (b + l) = 6 - (b + l) + 2 := by omega
    have hplace : b + l + (6 - (b + l)) = 6 := by omega
    have hshort := hex_groups_text_length_le src (b + l) (6 - (b + l))
    have htmp : (left ++ [':'] ++
        (hex_groups src (b + l) (6 - (b + l))).flatMap fun g => ':' :: g.digits).length ≤ 20 := by
      rw [hleft hcase.1]
      simp only [List.nil_append, List.length_append, List.length_singleton]
      omega
    have hlast : (List.range' 6 2).map (word src) = [word src 6, word src 7] := rfl
    rw [hcount, ← List.range'_append_1, List.map_append,
      write_words_plain (by omega) hplain, hplace,
      hlast, write_words_quad hbase hlen (by omega) hquad _ htmp, right_part,
        if_pos hquad, led_before]
    simp [led, Tail.text]
  · have hplain : ∀ j, b + l ≤ j → j < b + l + (8 - (b + l)) → Plain src best j := by
      intro j hj _
      exact plain_after hbase hlen hj (fun hand => hquad hand.2)
    have hwritten := write_words_plain (by omega) hplain [] (left ++ [':'])
    rw [List.append_nil] at hwritten
    rw [hwritten, write_words, right_part, if_neg hquad, led_before]
    simp [led]

/-- The colon that is written last, after a gap at the end. -/
theorem right_part_none_iff (src : in6_addr) (hle : b + l ≤ 8) :
    right_part src b l = none ↔ b + l = 8 := by
  unfold right_part
  by_cases hquad : quad_after src b l = true
  · have hcase := quad_after_gap hquad
    rw [if_pos hquad]
    constructor
    · intro hnone
      cases hgroups : hex_groups src (b + l) (6 - (b + l)) with
      | nil =>
        rw [hgroups] at hnone
        cases hnone
      | cons g gs =>
        rw [hgroups] at hnone
        cases hnone
    · omega
  · rw [if_neg hquad]
    constructor
    · intro hnone
      obtain ⟨n, hn⟩ | hzero : (∃ n, 8 - (b + l) = n + 1) ∨ 8 - (b + l) = 0 := by
        rcases 8 - (b + l) with _ | n
        · exact .inr rfl
        · exact .inl ⟨n, rfl⟩
      · rw [hn, hex_groups, List.range'_succ, List.map_cons, before] at hnone
        cases hnone
      · omega
    · intro height
      rw [height]
      rfl

theorem rest_text_before (g : Group) (gs : List Group) :
    rest_text (before (g :: gs) none) = left_text (g :: gs) := by
  have hled := led_before gs none
  rw [left_text_cons]
  have hnone : led none = [] := rfl
  rw [hnone, List.append_nil] at hled
  rw [← hled, before]
  cases before gs none with
  | none => exact (List.append_nil g.digits).symm
  | some t => rfl

theorem ntop6_text_of_gap (hbase : (find_best (words src)).base = some b)
    (hlen : (find_best (words src)).len = l) (hpos : 0 < l) (hle : b + l ≤ 8) :
    ntop6_text src = .ok (text_around src (some (b, l))) := by
  have hplain : ∀ j, j < b → Plain src (find_best (words src)) j :=
    fun j hj => plain_before hbase hj
  have hsplit : words src = (List.range' 0 b).map (word src) ++ ((List.range' b l).map (word src) ++
      (List.range' (b + l) (8 - (b + l))).map (word src)) := by
    have hcount : 8 = b + (l + (8 - (b + l))) := by omega
    have hstart := List.range'_append_1 (s := 0) (m := b) (n := l + (8 - (b + l)))
    rw [Nat.zero_add] at hstart
    rw [words_eq, ← List.map_append, ← List.map_append, List.range'_append_1, hstart, ← hcount]
  have hleft : b = 0 → left_text (hex_groups src 0 b) = [] := by
    rintro rfl
    rfl
  have hwritten : write_words src (find_best (words src)) 0 (words src) [] =
      .ok (left_text (hex_groups src 0 b) ++ ':' :: led (right_part src b l)) := by
    have hfirst := write_words_from_start hplain ((List.range' b l).map (word src) ++
      (List.range' (b + l) (8 - (b + l))).map (word src))
    rw [← hsplit] at hfirst
    rw [hfirst, write_words_gap hbase hlen hpos, write_words_right hbase hlen hpos hle hleft]
  unfold ntop6_text
  dsimp only
  rw [hwritten, ok_bind, hbase, hlen]
  by_cases height : b + l = 8
  · have hnone := (right_part_none_iff src hle).mpr height
    rw [text_around, hnone]
    simp [height, led, rest_text, pure, Except.pure]
  · obtain ⟨t, ht⟩ :=
      Option.ne_none_iff_exists'.mp (fun h => height ((right_part_none_iff src hle).mp h))
    rw [text_around, ht]
    simp [height, led, rest_text, pure, Except.pure]

theorem ntop6_text_of_no_gap (hbase : (find_best (words src)).base = none) :
    ntop6_text src = .ok (text_around src none) := by
  have hplain : ∀ j, j < 8 → Plain src (find_best (words src)) j := by
    intro j _
    exact ⟨by simp [Run.inside, hbase], by simp [encapsulated, hbase]⟩
  have hwritten := write_words_from_start hplain []
  rw [List.append_nil, ← words_eq] at hwritten
  unfold ntop6_text
  dsimp only
  rw [hwritten, write_words, ok_bind, hbase]
  exact congrArg Except.ok (rest_text_before (hex_group src 0) (hex_groups src 1 7)).symm

/-! ## The law -/

theorem Tail.text_length_le (t : Tail) : 2 * t.text.length + 2 ≤ 5 * t.bytes.length + 12 := by
  induction t with
  | group g =>
    have hshort := g.short
    rw [Tail.text, Tail.bytes, g.bytes_length]
    omega
  | quad a =>
    have hlt := dotted_length_lt a
    rw [Tail.text, Tail.bytes, a.sized]
    unfold UV__INET_ADDRSTRLEN at hlt
    omega
  | cons g t ih =>
    have hshort := g.short
    rw [Tail.text, Tail.bytes, List.length_append, List.length_append, List.length_cons,
      g.bytes_length]
    omega

theorem left_text_length_le (gs : List Group) :
    2 * (left_text gs).length ≤ 5 * (left_bytes gs).length := by
  cases gs with
  | nil => exact Nat.le_refl 0
  | cons g gs =>
    have hcolons : ∀ gs : List Group, (gs.flatMap fun g => ':' :: g.digits).length ≤
      5 * gs.length := by
      intro gs
      induction gs with
      | nil => exact Nat.le_refl 0
      | cons g gs ih =>
        have hshort := g.short
        rw [List.flatMap_cons, List.length_append, List.length_cons, List.length_cons]
        omega
    have hrest := hcolons gs
    have hshort := g.short
    rw [left_text_cons, left_bytes_length, List.length_append, List.length_cons]
    omega

/-- No text of an address is longer than the buffers for them. -/
theorem Text6.text_length_lt (t : Text6) : t.text.length < UV__INET6_ADDRSTRLEN := by
  unfold UV__INET6_ADDRSTRLEN
  cases t with
  | full t h =>
    have hle := t.text_length_le
    rw [Text6.text]
    omega
  | gapped left right h =>
    have hleft := left_text_length_le left
    rw [List.length_append] at h
    rw [Text6.text, List.length_append, List.length_cons, List.length_cons]
    cases right with
    | none =>
      have hnone : (rest_text none).length = 0 := rfl
      omega
    | some t =>
      have hle := t.text_length_le
      have htext : rest_text (some t) = t.text := rfl
      have hbytes : rest_bytes (some t) = t.bytes := rfl
      rw [hbytes] at h
      rw [htext]
      omega

theorem inet_ntop6_gap (src : in6_addr) : ∃ gap, IsGap (fun i => word src i = 0) 8 gap ∧
    ntop6_text src = .ok (text_around src gap) := by
  have hz : ∀ j w, (words src)[j]? = some w → (word src j = 0 ↔ w = 0) := by
    intro j w hw
    rw [words, List.getElem?_map] at hw
    obtain ⟨i, hi, rfl⟩ := Option.map_eq_some_iff.mp hw
    rw [List.getElem?_eq_some_iff] at hi
    obtain ⟨hlt, rfl⟩ := hi
    rw [List.getElem_range]
  have hgap : IsGap (fun i => word src i = 0) 8 (find_best (words src)).stretch :=
    find_best_is_gap hz
  refine ⟨_, hgap, ?_⟩
  obtain ⟨best, hlongest, hstretch⟩ := hgap
  cases hbase : (find_best (words src)).base with
  | none =>
    rw [Run.stretch_eq_none hbase]
    exact ntop6_text_of_no_gap hbase
  | some b =>
    have hsome : (find_best (words src)).stretch = some (b, (find_best (words src)).len) := by
      rw [Run.stretch, hbase]
      rfl
    rw [hsome] at hstretch ⊢
    obtain ⟨rfl, -⟩ := Option.filter_eq_some_iff.mp hstretch.symm
    exact ntop6_text_of_gap hbase rfl hlongest.1.1 hlongest.2.1

/-- An address is written with "::" for its first longest run of two or more zero words, in a
text that fits, and it is what inet_pton6 reads from this text. -/
theorem addresses_are_read_back (a : in6_addr) :
    ∃ gap, (∀ other, IsGap (fun i => word a i = 0) 8 other ↔ other = gap) ∧
      (∀ size, inet_ntop6 a size =
        if (text_around a gap).length < size then .ok (text_around a gap) else .error .UV_ENOSPC) ∧
      (text_around a gap).length < UV__INET6_ADDRSTRLEN ∧
      inet_pton6 (text_around a gap) = .ok a := by
  obtain ⟨gap, hgap, hwritten⟩ := inet_ntop6_gap a
  obtain ⟨t, htext, haddress⟩ := text_around_is_text hgap
  have hlt := t.text_length_lt
  have hread := inet_pton6_text t
  rw [htext] at hlt hread
  rw [haddress] at hread
  have honly : ∀ other, IsGap (fun i => word a i = 0) 8 other ↔ other = gap := by
    intro other
    constructor
    · intro h
      exact h.unique hgap
    · rintro rfl
      exact hgap
  refine ⟨gap, honly, ?_, hlt, hread⟩
  intro size
  unfold inet_ntop6
  rw [hwritten, ok_bind, if_neg (Nat.not_le_of_lt hlt)]
  by_cases hsize : (text_around a gap).length < size
  · rw [if_pos hsize, if_neg (by omega)]
  · rw [if_neg hsize, if_pos (by omega)]

end pyuv.inet
