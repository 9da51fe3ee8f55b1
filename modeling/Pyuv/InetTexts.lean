-- inet_pton6 takes the texts of IPv6 addresses, and no others: groups of up to four hexadecimal
-- digits between colons, the last two of them perhaps as a quad, and at most one "::" that stands
-- for the groups that are missing. Every load and store of it is inside of its array.
import Pyuv.InetQuads

namespace pyuv.inet

open blocks numerals

/-! ## The texts -/

/-- One to four hexadecimal digits. -/
structure Group where
  digits : List Char
  not_empty : digits ≠ []
  short : digits.length ≤ 4
  hex : ∀ c ∈ digits, ∃ d, xdigit c = some d

/-- The two bytes of a group of hex digits. -/
def Group.bytes (g : Group) : List unsigned_char := word_bytes (value xdigit 16 g.digits)

/-- Groups between colons, the last of which can be a quad. -/
inductive Tail where
  | group (g : Group)
  | quad (a : in_addr)
  | cons (g : Group) (t : Tail)

/-- The groups with the colons between them. -/
def Tail.text : Tail → List Char
  | .group g => g.digits
  | .quad a => dotted a.items
  | .cons g t => g.digits ++ ':' :: t.text

/-- The bytes that the groups stand for. -/
def Tail.bytes : Tail → List unsigned_char
  | .group g => g.bytes
  | .quad a => a.items
  | .cons g t => g.bytes ++ t.bytes

/-- What follows a "::", which can be nothing. -/
def rest_text (right : Option Tail) : List Char := (right.map Tail.text).getD []

/-- Those of what follows a gap. -/
def rest_bytes (right : Option Tail) : List unsigned_char := (right.map Tail.bytes).getD []

/-- The groups before a "::". -/
def left_text (left : List Group) : List Char := List.intercalate [':'] (left.map Group.digits)

/-- Those of what comes before it. -/
def left_bytes (left : List Group) : List unsigned_char := left.flatMap Group.bytes

/-- The text of an IPv6 address: all of its groups, or a "::" for one or more of them. -/
inductive Text6 where
  | full (t : Tail) (h : t.bytes.length = 16)
  | gapped (left : List Group) (right : Option Tail)
      (h : (left_bytes left ++ rest_bytes right).length < 16)

/-- The text of an address, with or without a gap. -/
def Text6.text : Text6 → List Char
  | .full t _ => t.text
  | .gapped left right _ => left_text left ++ ':' :: ':' :: rest_text right

/-- The bytes from the g-th on at the end, and zeros for the ones that are missing. -/
def gap_filled (g : ℕ) (out : List unsigned_char) : List unsigned_char :=
  out.take g ++ List.replicate (16 - out.length) 0 ++ out.drop g

theorem gap_filled_length {out : List unsigned_char} {g : ℕ} (h : out.length < 16) :
    (gap_filled g out).length = 16 := by
  simp [gap_filled]
  omega

/-- The address it stands for: the gap is filled with zeros. -/
def Text6.address : Text6 → in6_addr
  | .full t h => ⟨t.bytes, h⟩
  | .gapped left right h =>
    ⟨gap_filled (left_bytes left).length (left_bytes left ++ rest_bytes right), gap_filled_length h⟩

variable {tmp : in6_addr} {out : List unsigned_char} {colonp : Option ℕ} {cur src ds : List Char}
  {ch : Char} {d g : ℕ}

/-! ## The digits of a group -/

theorem xdigit_digitChar (hd : d < 16) : xdigit (Nat.digitChar d) = some d := by
  revert d
  decide

theorem xdigit_lt (h : xdigit ch = some d) : d < 16 := by
  unfold xdigit at h
  rcases hlower : xdigits_l.idxOf? ch with _ | e
  · rw [hlower, Option.none_or] at h
    obtain ⟨hlt, -, -⟩ := List.idxOf?_eq_some_iff.mp h
    exact hlt
  · rw [hlower, Option.some_or] at h
    obtain ⟨hlt, -, -⟩ := List.idxOf?_eq_some_iff.mp hlower
    cases h
    exact hlt

theorem xdigit_colon : xdigit ':' = none := by decide

theorem xdigit_dot : xdigit '.' = none := by decide

/-- A digit is shifted in below the digits before it. -/
theorem shift_or (n : ℕ) (hd : d < 16) : n <<< 4 ||| d = n * 16 + d := by
  have hor := Nat.shiftLeft_add_eq_or_of_lt (i := 4) (b := d) (by omega) n
  rw [← hor, Nat.shiftLeft_eq]

/-! ## The states of the loop -/

/-- After the digits `ds` of a token, with `out` stored before it. -/
def Pton6.inside (tmp : in6_addr) (tp : ℕ) (colonp : Option ℕ) (cur ds : List Char) : Pton6 :=
  { tmp, tp, colonp, curtok := cur, seen_xdigits := ds.length, val := value xdigit 16 ds }

theorem Pton6.inside_nil {tp : ℕ} :
    Pton6.inside tmp tp colonp cur [] = Pton6.token tmp tp colonp cur := rfl

theorem Pton6.push_inside {tp : ℕ} (hch : xdigit ch = some d) :
    (Pton6.inside tmp tp colonp cur ds).push d = Pton6.inside tmp tp colonp cur (ds ++ [ch]) := by
  unfold Pton6.push Pton6.inside
  dsimp only
  rw [shift_or _ (xdigit_lt hch), value_push ds hch, List.length_append, List.length_singleton]

theorem Pton6.run_cons_digit {tp : ℕ} (hch : xdigit ch = some d) :
    (Pton6.inside tmp tp colonp cur ds).run (ch :: src) =
      if ds.length ≥ 4 then .error .UV_EINVAL
      else (Pton6.inside tmp tp colonp cur (ds ++ [ch])).run src := by
  unfold Pton6.run
  rw [Pton6.loop, hch]
  dsimp only
  rw [Pton6.push_inside hch]
  have hseen : (Pton6.inside tmp tp colonp cur (ds ++ [ch])).seen_xdigits = ds.length + 1 := by
    simp [Pton6.inside]
  rw [hseen]
  by_cases hfull : ds.length ≥ 4
  · rw [if_pos hfull, if_pos (by omega)]
    rfl
  · rw [if_neg hfull, if_neg (by omega)]

/-- The second colon of "::", or the first of a text that starts with it. -/
theorem Pton6.run_gap {tp : ℕ} :
    (Pton6.token tmp tp colonp cur).run (':' :: src) =
      if colonp.isSome then .error .UV_EINVAL
      else (Pton6.token tmp tp (some tp) src).run src := by
  have hseen : (Pton6.token tmp tp colonp cur).seen_xdigits = 0 := rfl
  have hcolonp : (Pton6.token tmp tp colonp cur).colonp = colonp := rfl
  unfold Pton6.run
  rw [Pton6.loop, xdigit_colon]
  dsimp only
  rw [if_pos rfl, if_pos hseen, hcolonp]
  by_cases hgap : colonp.isSome
  · rw [if_pos hgap, if_pos hgap]
    rfl
  · rw [if_neg hgap, if_neg hgap]
    rfl

theorem Pton6.run_colon {tp : ℕ} (hds : ds ≠ []) :
    (Pton6.inside tmp tp colonp cur ds).run (':' :: src) =
      if src = [] then .error .UV_EINVAL
      else (Pton6.inside tmp tp colonp cur ds).put_val >>= fun s =>
        (Pton6.token s.tmp s.tp s.colonp src).run src := by
  have hseen : (Pton6.inside tmp tp colonp cur ds).seen_xdigits ≠ 0 := by
    rw [Pton6.inside]
    exact fun h => hds (List.length_eq_zero_iff.mp h)
  unfold Pton6.run
  rw [Pton6.loop, xdigit_colon]
  dsimp only
  rw [if_pos rfl, if_neg hseen]
  by_cases hend : src = []
  · rw [if_pos hend, if_pos hend]
    rfl
  · rw [if_neg hend, if_neg hend]
    cases (Pton6.inside tmp tp colonp cur ds).put_val <;> rfl

/-- The two bytes of a group go after the ones that are stored. -/
theorem Pton6.put_val_inside (colonp : Option ℕ) (cur ds : List Char) (hfilled : tmp.Filled 0 out)
    (hroom : out.length + 2 ≤ 16) :
    ∃ tmp' : in6_addr, tmp'.Filled 0 (out ++ word_bytes (value xdigit 16 ds)) ∧
      (Pton6.inside tmp out.length colonp cur ds).put_val =
        .ok (({ Pton6.inside tmp out.length colonp cur ds with
          tmp := tmp', tp := out.length + 2 } : Pton6)) := by
  obtain ⟨tmp', hstore, hfilled'⟩ := hfilled.store (word_bytes (value xdigit 16 ds)) hroom
  refine ⟨tmp', hfilled', ?_⟩
  unfold Pton6.put_val
  have hin : ¬(Pton6.inside tmp out.length colonp cur ds).tp + 2 > Pton6.endp := by
    simp only [Pton6.inside, Pton6.endp]
    omega
  rw [if_neg hin]
  simp only [Pton6.inside, hstore, access, ok_bind]
  rfl

theorem Pton6.put_val_full (hroom : ¬out.length + 2 ≤ 16) :
    (Pton6.inside tmp out.length colonp cur ds).put_val = .error .UV_EINVAL := by
  unfold Pton6.put_val
  have hin : (Pton6.inside tmp out.length colonp cur ds).tp + 2 > Pton6.endp := by
    simp only [Pton6.inside, Pton6.endp]
    omega
  rw [if_pos hin]

/-! ## After the loop -/

/-- What is left to do once the last group is stored. -/
def Pton6.ends (tmp : in6_addr) (tp : ℕ) : Option ℕ → Except Fault in6_addr
  | none => if tp ≠ Pton6.endp then .error .UV_EINVAL else .ok tmp
  | some g => if tp = Pton6.endp then .error .UV_EINVAL else shift g (tp - g) tmp

theorem Pton6.fill_gap_bind (s : Pton6) :
    (s.fill_gap >>= fun s => if s.tp ≠ Pton6.endp then .error .UV_EINVAL else .ok s.tmp) =
      Pton6.ends s.tmp s.tp s.colonp := by
  unfold Pton6.fill_gap Pton6.ends
  rcases s.colonp with _ | g
  · rfl
  · dsimp only
    by_cases hfull : s.tp = Pton6.endp
    · rw [if_pos hfull, if_pos hfull]
      rfl
    · rw [if_neg hfull, if_neg hfull]
      cases hshift : shift g (s.tp - g) s.tmp with
      | error e => rfl
      | ok tmp => rfl

theorem Pton6.finish_token {tp : ℕ} :
    (Pton6.token tmp tp colonp cur).finish = Pton6.ends tmp tp colonp :=
  Pton6.fill_gap_bind (Pton6.token tmp tp colonp cur)

theorem Pton6.finish_inside {tp : ℕ} (hds : ds ≠ []) :
    (Pton6.inside tmp tp colonp cur ds).finish =
      (Pton6.inside tmp tp colonp cur ds).put_val >>= fun s => Pton6.ends s.tmp s.tp s.colonp := by
  have hseen : (Pton6.inside tmp tp colonp cur ds).seen_xdigits ≠ 0 := by
    rw [Pton6.inside]
    exact fun h => hds (List.length_eq_zero_iff.mp h)
  unfold Pton6.finish
  rw [if_pos hseen]
  cases (Pton6.inside tmp tp colonp cur ds).put_val with
  | error e => rfl
  | ok s => exact Pton6.fill_gap_bind s

/-- After `i` passes, the last `i` bytes are at the end, with the zeros before them. -/
def Shifted (out : List unsigned_char) (i : ℕ) (tmp : in6_addr) : Prop :=
  tmp.items = out.take (out.length - i) ++ List.replicate (16 - out.length) 0 ++
    out.drop (out.length - i)

theorem Shifted.zero (h : tmp.Filled 0 out) : Shifted out 0 tmp := by
  unfold Shifted
  rw [Nat.sub_zero, List.take_length, List.drop_length, List.append_nil]
  exact h.1

theorem Shifted.step {n i : ℕ} (h : Shifted out i tmp) (hroom : out.length < 16)
    (hlen : g + n = out.length) (hi : i < n) :
    ∃ tmp', shift_step g n tmp (i + 1) = .ok tmp' ∧ Shifted out (i + 1) tmp' := by
  obtain ⟨k, hk⟩ : ∃ k, k + 1 = out.length - i := ⟨out.length - i - 1, by omega⟩
  obtain ⟨z, hz⟩ : ∃ z, z + 1 = 16 - out.length := ⟨16 - out.length - 1, by omega⟩
  have hlt : k < out.length := by omega
  have htake : (out.take k).length = k := by
    rw [List.length_take]
    omega
  have hitems : tmp.items =
    out.take k ++ out[k] :: (List.replicate (z + 1) 0 ++ out.drop (k + 1)) := by
    rw [h, ← hk, ← hz, List.take_succ_eq_append_getElem hlt]
    simp only [List.append_assoc, List.cons_append, List.nil_append]
  have hload : tmp.load (g + n - (i + 1)) = some out[k] :=
    Block.load_of_eq hitems (by rw [htake]; omega)
  have hsplit : tmp.items = (out.take k ++ out[k] :: List.replicate z 0) ++ [0] ++
    out.drop (k + 1) := by
    rw [hitems, List.replicate_succ']
    simp only [List.append_assoc, List.cons_append]
  have hplace : Pton6.endp - (i + 1) = (out.take k ++ out[k] :: List.replicate z 0).length := by
    rw [List.length_append, List.length_cons, List.length_replicate, htake]
    unfold Pton6.endp
    omega
  obtain ⟨moved, hmoved, hmoved_items⟩ := Block.store_of_eq hsplit [out[k]] hplace rfl
  have hsplit' : moved.items = out.take k ++ [out[k]] ++
      (List.replicate z 0 ++ out[k] :: out.drop (k + 1)) := by
    rw [hmoved_items]
    simp only [List.append_assoc, List.cons_append, List.nil_append]
  have hplace' : g + n - (i + 1) = (out.take k).length := by
    rw [htake]
    omega
  obtain ⟨cleared, hcleared, hcleared_items⟩ :=
    Block.store_of_eq hsplit' [0] hplace' rfl
  refine ⟨cleared, ?_, ?_⟩
  · unfold shift_step
    rw [hload, access, ok_bind, hmoved, access, ok_bind, hcleared]
    rfl
  · unfold Shifted
    have hk' : out.length - (i + 1) = k := by omega
    rw [hcleared_items, hk', ← hz, List.drop_eq_getElem_cons hlt, List.replicate_succ]
    simp only [List.append_assoc, List.cons_append, List.nil_append]

theorem Shifted.passes {n i k : ℕ} (h : Shifted out i tmp) (hroom : out.length < 16)
    (hlen : g + n = out.length) (hk : i + k ≤ n) :
    ∃ tmp', (List.range' (i + 1) k).foldlM (shift_step g n) tmp = .ok tmp' ∧
      Shifted out (i + k) tmp' := by
  induction k generalizing i tmp with
  | zero => exact ⟨tmp, rfl, h⟩
  | succ k ih =>
    obtain ⟨next, hnext, hshifted⟩ := h.step hroom hlen (by omega)
    obtain ⟨last, hlast, hdone⟩ := ih hshifted (by omega)
    refine ⟨last, ?_, ?_⟩
    · rw [List.range'_succ, List.foldlM_cons, hnext, ok_bind]
      exact hlast
    · have hcount : i + 1 + k = i + (k + 1) := by omega
      rw [hcount] at hdone
      exact hdone

/-- The shift puts the bytes from the gap on at the end. -/
theorem Pton6.ends_gap (hfilled : tmp.Filled 0 out) (hg : g ≤ out.length)
    (hroom : out.length < 16) :
    ∃ a, Pton6.ends tmp out.length (some g) = .ok a ∧ a.items = gap_filled g out := by
  have hnot : ¬out.length = Pton6.endp := Nat.ne_of_lt hroom
  obtain ⟨a, ha, hshifted⟩ := (Shifted.zero hfilled).passes (g := g) (n := out.length - g)
    (k := out.length - g) hroom (by omega) (by omega)
  refine ⟨a, ?_, ?_⟩
  · unfold Pton6.ends
    dsimp only
    rw [if_neg hnot]
    exact ha
  · have hfrom : out.length - (0 + (out.length - g)) = g := by omega
    rw [hshifted, hfrom]
    rfl

theorem Pton6.ends_gap_full {g : ℕ} (hfull : out.length = 16) :
    Pton6.ends tmp out.length (some g) = .error .UV_EINVAL := by
  unfold Pton6.ends
  exact if_pos hfull

theorem Pton6.ends_full (hfilled : tmp.Filled 0 out) (hfull : out.length = 16) :
    ∃ a, Pton6.ends tmp out.length none = .ok a ∧ a.items = out := by
  refine ⟨tmp, ?_, hfilled.items_eq hfull⟩
  unfold Pton6.ends
  exact if_neg (fun h => h hfull)

theorem Pton6.ends_short (hshort : out.length ≠ 16) :
    Pton6.ends tmp out.length none = .error .UV_EINVAL := by
  unfold Pton6.ends
  exact if_pos hshort

theorem Pton6.run_nil (s : Pton6) : s.run [] = s.finish := rfl

/-- A token that inet_pton4 reads ends the text. -/
theorem Pton6.run_quad (colonp : Option ℕ) (ds src : List Char) (hfilled : tmp.Filled 0 out)
    (hroom : out.length + 4 ≤ 16) {a : in_addr}
    (hcur : inet_pton4 cur = .ok a) :
    ∃ tmp' : in6_addr, tmp'.Filled 0 (out ++ a.items) ∧
      (Pton6.inside tmp out.length colonp cur ds).run ('.' :: src) =
        Pton6.ends tmp' (out ++ a.items).length colonp := by
  have hlen : (out ++ a.items).length = out.length + 4 := by
    rw [List.length_append, a.sized]
  obtain ⟨tmp', hstore, hfilled'⟩ := hfilled.store a.items (by rw [a.sized]; exact hroom)
  have hin : (Pton6.inside tmp out.length colonp cur ds).tp + 4 ≤ Pton6.endp := hroom
  refine ⟨tmp', hfilled', ?_⟩
  unfold Pton6.run
  rw [Pton6.loop, xdigit_dot]
  dsimp only
  rw [if_neg (by decide), if_pos ⟨rfl, hin⟩]
  have hcurtok : (Pton6.inside tmp out.length colonp cur ds).curtok = cur := rfl
  have hstored : (Pton6.inside tmp out.length colonp cur ds).tmp.store
      (Pton6.inside tmp out.length colonp cur ds).tp a.items = some tmp' := hstore
  rw [hcurtok, hcur]
  dsimp only
  rw [hstored, access, ok_bind, hlen]
  exact Pton6.fill_gap_bind _

theorem Pton6.run_dot_refused {tp : ℕ}
    (h : ¬tp + 4 ≤ 16 ∨ inet_pton4 cur = .error .UV_EINVAL) :
    (Pton6.inside tmp tp colonp cur ds).run ('.' :: src) = .error .UV_EINVAL := by
  have hcurtok : (Pton6.inside tmp tp colonp cur ds).curtok = cur := rfl
  unfold Pton6.run
  rw [Pton6.loop, xdigit_dot]
  dsimp only
  rw [if_neg (by decide)]
  by_cases hin : tp + 4 ≤ 16
  · rw [if_pos ⟨rfl, hin⟩, hcurtok, h.resolve_left (not_not_intro hin)]
    rfl
  · rw [if_neg (fun hand => hin hand.2)]
    rfl

/-- A character that has no place in an address. -/
theorem Pton6.run_other {tp : ℕ} (hch : xdigit ch = none) (hcolon : ch ≠ ':') (hdot : ch ≠ '.') :
    (Pton6.inside tmp tp colonp cur ds).run (ch :: src) = .error .UV_EINVAL := by
  unfold Pton6.run
  rw [Pton6.loop, hch]
  dsimp only
  rw [if_neg hcolon, if_neg (fun hand => hdot hand.1)]
  rfl

/-! ## What is accepted is a text of an address -/

/-- What is left of an accepted text once `out` is stored, and what the text is read as. -/
def Accepts (out : List unsigned_char) (text : List Char) (items : List unsigned_char) :
    Option ℕ → Prop
  | some g => ∃ right, text = rest_text right ∧ (out ++ rest_bytes right).length < 16 ∧
      items = gap_filled g (out ++ rest_bytes right)
  | none => (∃ right, text = rest_text right ∧ items = out ++ rest_bytes right) ∨
      ∃ (left : List Group) (right : Option Tail),
        text = left.flatMap (fun g => g.digits ++ [':']) ++ ':' :: rest_text right ∧
        (out ++ left_bytes left ++ rest_bytes right).length < 16 ∧
        items = gap_filled (out ++ left_bytes left).length
          (out ++ left_bytes left ++ rest_bytes right)

/-- The outcome of a run with `out` stored. -/
def Pton6.Outcome (out : List unsigned_char) (colonp : Option ℕ) (text : List Char)
    (r : Except Fault in6_addr) : Prop :=
  (∃ a, r = .ok a ∧ Accepts out text a.items colonp) ∨ r = .error .UV_EINVAL

/-- The end of the text after the last piece of it. -/
theorem Pton6.outcome_ends (right : Option Tail) {out' : List unsigned_char}
    (hout' : out' = out ++ rest_bytes right) (hfilled : tmp.Filled 0 out')
    (hg : ∀ g, colonp = some g → g ≤ out.length) :
    Pton6.Outcome out colonp (rest_text right) (Pton6.ends tmp out'.length colonp) := by
  by_cases hfull : out'.length = 16
  · rcases colonp with _ | g
    · obtain ⟨a, ha, hitems⟩ := Pton6.ends_full hfilled hfull
      exact .inl ⟨a, ha, .inl ⟨right, rfl, by rw [hitems, hout']⟩⟩
    · exact .inr (Pton6.ends_gap_full hfull)
  · rcases colonp with _ | g
    · exact .inr (Pton6.ends_short hfull)
    · have hle := hg g rfl
      have hlt : out'.length < 16 := Nat.lt_of_le_of_ne hfilled.2 hfull
      have hmore : out.length ≤ out'.length := by
        rw [hout', List.length_append]
        omega
      obtain ⟨a, ha, hitems⟩ := Pton6.ends_gap hfilled (Nat.le_trans hle hmore) hlt
      rw [hout'] at hitems hlt
      exact .inl ⟨a, ha, right, rfl, hlt, hitems⟩

/-- A group and a colon before what is accepted. -/
theorem Accepts.cons (grp : Group) {text : List Char} {items : List unsigned_char}
    (htext : text ≠ []) (h : Accepts (out ++ grp.bytes) text items colonp) :
    Accepts out (grp.digits ++ ':' :: text) items colonp := by
  have hright : ∀ right, text = rest_text right →
      ∃ t, right = some t := by
    rintro (_ | t) hnone
    · exact absurd hnone htext
    · exact ⟨t, rfl⟩
  rcases colonp with _ | g
  · rcases h with ⟨right, hright_text, hitems⟩ | ⟨left, right, hleft_text, hlt, hitems⟩
    · obtain ⟨t, rfl⟩ := hright right hright_text
      refine .inl ⟨some (.cons grp t), ?_, ?_⟩
      · rw [hright_text]
        rfl
      · rw [hitems, List.append_assoc]
        rfl
    · have hbytes : out ++ left_bytes (grp :: left) = out ++ grp.bytes ++ left_bytes left := by
        simp [left_bytes]
      refine .inr ⟨grp :: left, right, ?_, ?_, ?_⟩
      · rw [hleft_text]
        simp
      · rw [hbytes]
        exact hlt
      · rw [hbytes]
        exact hitems
  · obtain ⟨right, hright_text, hlt, hitems⟩ := h
    obtain ⟨t, rfl⟩ := hright right hright_text
    have hbytes : out ++ rest_bytes (some (.cons grp t)) =
      out ++ grp.bytes ++ rest_bytes (some t) := by
      simp [rest_bytes, Tail.bytes]
    refine ⟨some (.cons grp t), ?_, ?_, ?_⟩
    · rw [hright_text]
      rfl
    · rw [hbytes]
      exact hlt
    · rw [hbytes]
      exact hitems

/-- A colon that is the second of "::" before what is accepted. -/
theorem Accepts.gap {text : List Char} {items : List unsigned_char}
    (h : Accepts out text items (some out.length)) : Accepts out (':' :: text) items none := by
  obtain ⟨right, htext, hlt, hitems⟩ := h
  refine .inr ⟨[], right, ?_, ?_, ?_⟩
  · rw [htext]
    rfl
  · rw [left_bytes, List.flatMap_nil, List.append_nil]
    exact hlt
  · rw [left_bytes, List.flatMap_nil, List.append_nil]
    exact hitems

/-- The digits of a token, while they are few enough. -/
structure Few (ds : List Char) : Prop where
  short : ds.length ≤ 4
  hex : ∀ c ∈ ds, ∃ d, xdigit c = some d

/-- Some digits that are few enough make a group. -/
def Few.group (h : Few ds) (hds : ds ≠ []) : Group :=
  { digits := ds, not_empty := hds, short := h.short, hex := h.hex }

theorem Few.push (h : Few ds) (hlt : ds.length < 4) (hch : xdigit ch = some d) :
    Few (ds ++ [ch]) := by
  obtain ⟨-, hhex⟩ := h
  constructor
  · rw [List.length_append, List.length_singleton]
    omega
  · intro c hc
    rcases List.mem_append.mp hc with hc | hc
    · exact hhex c hc
    · rw [List.mem_singleton.mp hc]
      exact ⟨d, hch⟩

/-- What the run does from the next character on. -/
def Pton6.Goes (src : List Char) : Prop :=
  ∀ (tmp : in6_addr) (out : List unsigned_char) (colonp : Option ℕ) (ds : List Char),
    tmp.Filled 0 out → (∀ g, colonp = some g → g ≤ out.length) → Few ds →
      Pton6.Outcome out colonp (ds ++ src)
        ((Pton6.inside tmp out.length colonp (ds ++ src) ds).run src)

theorem Pton6.goes_nil : Pton6.Goes [] := by
  intro tmp out colonp ds hfilled hg hfew
  rw [List.append_nil, Pton6.run_nil]
  by_cases hds : ds = []
  · subst hds
    rw [Pton6.inside_nil, Pton6.finish_token]
    exact Pton6.outcome_ends none (List.append_nil out).symm hfilled hg
  · rw [Pton6.finish_inside hds]
    by_cases hroom : out.length + 2 ≤ 16
    · obtain ⟨tmp', hfilled', hput⟩ := Pton6.put_val_inside colonp ds ds hfilled hroom
      have hends := Pton6.outcome_ends (some (.group (hfew.group hds))) rfl hfilled' hg
      rw [hput, ok_bind]
      rw [List.length_append] at hends
      exact hends
    · rw [Pton6.put_val_full hroom]
      exact .inr rfl

theorem Pton6.goes_colon (ih : Pton6.Goes src) : Pton6.Goes (':' :: src) := by
  intro tmp out colonp ds hfilled hg hfew
  by_cases hds : ds = []
  · subst hds
    rw [Pton6.inside_nil, Pton6.run_gap]
    rcases colonp with _ | g
    · have hnext :=
        ih tmp out (some out.length) [] hfilled (fun g h => by cases h; exact Nat.le_refl _) hfew
      rcases hnext with ⟨a, ha, hacc⟩ | he
      · exact .inl ⟨a, ha, hacc.gap⟩
      · exact .inr he
    · exact .inr rfl
  · rw [Pton6.run_colon hds]
    by_cases hend : src = []
    · rw [if_pos hend]
      exact .inr rfl
    · rw [if_neg hend]
      by_cases hroom : out.length + 2 ≤ 16
      · obtain ⟨tmp', hfilled', hput⟩ := Pton6.put_val_inside colonp
          (ds ++ ':' :: src) ds hfilled hroom
        have hnext := ih tmp' _ colonp [] hfilled'
          (fun g h => by rw [List.length_append]; exact Nat.le_add_right_of_le (hg g h))
            ⟨by simp, by simp⟩
        rw [hput, ok_bind]
        rcases hnext with ⟨a, ha, hacc⟩ | he
        · rw [List.length_append] at ha
          exact .inl ⟨a, ha, Accepts.cons (hfew.group hds) hend hacc⟩
        · rw [List.length_append] at he
          exact .inr he
      · rw [Pton6.put_val_full hroom]
        exact .inr rfl

theorem Pton6.goes_dot : Pton6.Goes ('.' :: src) := by
  intro tmp out colonp ds hfilled hg _
  by_cases hroom : out.length + 4 ≤ 16
  · rcases inet_pton4_ok_or_einval (ds ++ '.' :: src) with ⟨a, ha, htext⟩ | he
    · obtain ⟨tmp', hfilled', hrun⟩ := Pton6.run_quad colonp ds src hfilled hroom ha
      have hends := Pton6.outcome_ends (some (.quad a)) rfl hfilled' hg
      rw [hrun, htext]
      exact hends
    · rw [Pton6.run_dot_refused (.inr he)]
      exact .inr rfl
  · rw [Pton6.run_dot_refused (.inl hroom)]
    exact .inr rfl

theorem Pton6.goes_cons (ih : Pton6.Goes src) : Pton6.Goes (ch :: src) := by
  rcases hch : xdigit ch with _ | d
  · by_cases hcolon : ch = ':'
    · subst hcolon
      exact Pton6.goes_colon ih
    · by_cases hdot : ch = '.'
      · subst hdot
        exact Pton6.goes_dot
      · intro tmp out colonp ds _ _ _
        rw [Pton6.run_other hch hcolon hdot]
        exact .inr rfl
  · intro tmp out colonp ds hfilled hg hfew
    rw [Pton6.run_cons_digit hch]
    by_cases hfull : ds.length ≥ 4
    · rw [if_pos hfull]
      exact .inr rfl
    · have hnext := ih tmp out colonp (ds ++ [ch]) hfilled hg (hfew.push (by omega) hch)
      rw [List.append_assoc, List.singleton_append] at hnext
      rw [if_neg hfull]
      exact hnext

theorem Pton6.goes (src : List Char) : Pton6.Goes src := by
  induction src with
  | nil => exact Pton6.goes_nil
  | cons ch src ih => exact Pton6.goes_cons ih

theorem zeros_filled : zeros.Filled 0 ([] : List unsigned_char) := ⟨rfl, by simp⟩

/-- A new token after a colon or at the start, seen as a state of the loop. -/
theorem Pton6.goes_from_start (colonp : Option ℕ) (hg : ∀ g, colonp = some g → g = 0)
    (src : List Char) :
    Pton6.Outcome [] colonp src ((Pton6.token zeros 0 colonp src).run src) :=
  Pton6.goes src zeros [] colonp [] zeros_filled (fun g h => Nat.le_of_eq (hg g h))
    ⟨by simp, by simp⟩

theorem left_text_colons {left : List Group} (hleft : left ≠ []) (text : List Char) :
    left.flatMap (fun g => g.digits ++ [':']) ++ ':' :: text =
    left_text left ++ ':' :: ':' :: text := by
  induction left with
  | nil => exact absurd rfl hleft
  | cons g left ih =>
    cases left with
    | nil => simp [left_text, List.intercalate]
    | cons g' left =>
      have hrest := ih (List.cons_ne_nil g' left)
      rw [List.flatMap_cons, List.append_assoc, hrest]
      simp [left_text, List.intercalate]

theorem inet_pton6_of_colons : inet_pton6 (':' :: ':' :: src) =
    (Pton6.token zeros 0 (some 0) src).run src := by
  rw [inet_pton6, Pton6.run_gap]
  rfl

theorem inet_pton6_of_no_colon (h : ∀ rest, src ≠ ':' :: rest) :
    inet_pton6 src = (Pton6.token zeros 0 none src).run src := by
  unfold inet_pton6
  split
  · exact absurd rfl (h _)
  · exact absurd rfl (h _)
  · rfl

/-- A text that starts with a single colon. -/
theorem inet_pton6_of_one_colon (h : ∀ rest, src ≠ ':' :: rest) :
    inet_pton6 (':' :: src) = .error .UV_EINVAL := by
  unfold inet_pton6
  split
  · rename_i heq
    cases heq
    exact absurd rfl (h _)
  · rfl
  · rename_i hnot
    exact absurd rfl (hnot _)

theorem text_of_accepts_gap {a : in6_addr} (h : Accepts [] src a.items (some 0)) :
    ∃ t : Text6, t.text = ':' :: ':' :: src ∧ t.address = a := by
  obtain ⟨right, htext, hlt, hitems⟩ := h
  refine ⟨.gapped [] right hlt, ?_, ?_⟩
  · rw [htext]
    rfl
  · exact Block.ext hitems.symm

theorem text_of_accepts {a : in6_addr} (hcolon : ∀ rest, src ≠ ':' :: rest)
    (h : Accepts [] src a.items none) : ∃ t : Text6, t.text = src ∧ t.address = a := by
  rcases h with ⟨right, htext, hitems⟩ | ⟨left, right, htext, hlt, hitems⟩
  · rw [List.nil_append] at hitems
    have hsized : (rest_bytes right).length = 16 := by
      rw [← hitems]
      exact a.sized
    cases right with
    | none => cases hsized
    | some t => exact ⟨.full t hsized, htext.symm, Block.ext hitems.symm⟩
  · have hleft : left ≠ [] := by
      rintro rfl
      exact hcolon _ htext
    refine ⟨.gapped left right hlt, ?_, ?_⟩
    · rw [htext, left_text_colons hleft]
      rfl
    · exact Block.ext hitems.symm

theorem inet_pton6_text_or_einval (src : List Char) :
    (∃ (a : in6_addr) (t : Text6), inet_pton6 src = .ok a ∧ t.text = src ∧ t.address = a) ∨
      inet_pton6 src = .error .UV_EINVAL := by
  by_cases hfirst : ∃ rest, src = ':' :: rest
  · obtain ⟨rest, rfl⟩ := hfirst
    by_cases hsecond : ∃ rest', rest = ':' :: rest'
    · obtain ⟨rest, rfl⟩ := hsecond
      rw [inet_pton6_of_colons]
      rcases Pton6.goes_from_start (some 0) (fun g h => (Option.some.inj h).symm) rest with
        ⟨a, ha, hacc⟩ | he
      · obtain ⟨t, ht, hat⟩ := text_of_accepts_gap hacc
        exact .inl ⟨a, t, ha, ht, hat⟩
      · exact .inr he
    · exact .inr (inet_pton6_of_one_colon (not_exists.mp hsecond))
  · have hnot := not_exists.mp hfirst
    rw [inet_pton6_of_no_colon hnot]
    rcases Pton6.goes_from_start none (fun g h => by cases h) src with ⟨a, ha, hacc⟩ | he
    · obtain ⟨t, ht, hat⟩ := text_of_accepts hnot hacc
      exact .inl ⟨a, t, ha, ht, hat⟩
    · exact .inr he

/-! ## Every text of an address is accepted -/

theorem Pton6.run_digits {tp : ℕ} (ds more : List Char) (hfew : Few (ds ++ more)) :
    (Pton6.inside tmp tp colonp cur ds).run (more ++ src) =
      (Pton6.inside tmp tp colonp cur (ds ++ more)).run src := by
  induction more generalizing ds with
  | nil => rw [List.append_nil, List.nil_append]
  | cons c more ih =>
    obtain ⟨hshort, hhex⟩ := hfew
    obtain ⟨d, hd⟩ := hhex c (by simp)
    have hlt : ¬ds.length ≥ 4 := by
      rw [List.length_append, List.length_cons] at hshort
      omega
    have hsplit : ds ++ c :: more = ds ++ [c] ++ more := by simp
    rw [hsplit] at hshort hhex ⊢
    rw [List.cons_append, Pton6.run_cons_digit hd, if_neg hlt]
    exact ih (ds ++ [c]) ⟨hshort, hhex⟩

/-- The digits at the start of a token. -/
theorem Pton6.run_first_digits {tp : ℕ} (more : List Char) (hfew : Few more) :
    (Pton6.token tmp tp colonp cur).run (more ++ src) =
      (Pton6.inside tmp tp colonp cur more).run src :=
  Pton6.run_digits [] more hfew

theorem Group.few (g : Group) : Few g.digits := ⟨g.short, g.hex⟩

theorem Pton6.run_group_colon (colonp : Option ℕ) (cur : List Char) (grp : Group)
    (hfilled : tmp.Filled 0 out) (hsrc : src ≠ [])
    (hroom : out.length + 2 ≤ 16) :
    ∃ tmp' : in6_addr, tmp'.Filled 0 (out ++ grp.bytes) ∧
      (Pton6.token tmp out.length colonp cur).run (grp.digits ++ ':' :: src) =
        (Pton6.token tmp' (out ++ grp.bytes).length colonp src).run src := by
  obtain ⟨tmp', hfilled', hput⟩ := Pton6.put_val_inside colonp cur grp.digits hfilled hroom
  refine ⟨tmp', hfilled', ?_⟩
  rw [Pton6.run_first_digits grp.digits grp.few, Pton6.run_colon grp.not_empty, if_neg hsrc, hput,
    ok_bind, List.length_append]
  rfl

theorem Group.bytes_length (g : Group) : g.bytes.length = 2 := rfl

theorem Group.head (g : Group) : ∃ c cs, g.digits = c :: cs ∧ c ≠ ':' := by
  obtain ⟨c, cs, hcs⟩ := List.exists_cons_of_ne_nil g.not_empty
  refine ⟨c, cs, hcs, ?_⟩
  rintro rfl
  obtain ⟨d, hd⟩ := g.hex ':' (by rw [hcs]; exact List.mem_cons_self)
  rw [xdigit_colon] at hd
  cases hd

theorem few_toDigits (m : unsigned_char) : Few (Nat.toDigits 10 m.toNat) := by
  have hle := toDigits_octet_length m
  constructor
  · omega
  · intro c hc
    obtain ⟨d, hd, rfl⟩ := mem_toDigits (by omega) hc
    exact ⟨d, xdigit_digitChar (by omega)⟩

/-- A quad starts with the digits of its first octet and a dot. -/
theorem dotted_split (a : in_addr) : ∃ (m : unsigned_char) (text : List Char),
    dotted a.items = Nat.toDigits 10 m.toNat ++ '.' :: text := by
  obtain ⟨m, ms, hitems, hlen⟩ := in_addr_items a
  cases ms with
  | nil => cases hlen
  | cons m' ms => exact ⟨m, dotted (m' :: ms), by rw [hitems, dotted_cons]⟩

theorem Tail.head (t : Tail) : ∃ c cs, t.text = c :: cs ∧ c ≠ ':' := by
  cases t with
  | group g => exact g.head
  | cons g t =>
    obtain ⟨c, cs, hcs, hne⟩ := g.head
    exact ⟨c, cs ++ ':' :: t.text, by rw [Tail.text, hcs]; rfl, hne⟩
  | quad a =>
    obtain ⟨m, text, hdotted⟩ := dotted_split a
    obtain ⟨c, cs, hcs⟩ := List.exists_cons_of_ne_nil (Nat.toDigits_ne_nil (b := 10) (n := m.toNat))
    refine ⟨c, cs ++ '.' :: text, by rw [Tail.text, hdotted, hcs]; rfl, ?_⟩
    rintro rfl
    obtain ⟨d, hd⟩ := (few_toDigits m).hex ':' (by rw [hcs]; exact List.mem_cons_self)
    rw [xdigit_colon] at hd
    cases hd

theorem Tail.text_ne_nil (t : Tail) : t.text ≠ [] := by
  obtain ⟨c, cs, hcs, -⟩ := t.head
  rw [hcs]
  exact List.cons_ne_nil c cs

theorem Pton6.run_tail (colonp : Option ℕ) (t : Tail) (hfilled : tmp.Filled 0 out)
    (hroom : (out ++ t.bytes).length ≤ 16) :
    ∃ tmp' : in6_addr, tmp'.Filled 0 (out ++ t.bytes) ∧
      (Pton6.token tmp out.length colonp t.text).run t.text =
        Pton6.ends tmp' (out ++ t.bytes).length colonp := by
  induction t generalizing tmp out with
  | group g =>
    rw [List.length_append] at hroom
    obtain ⟨tmp', hfilled', hput⟩ := Pton6.put_val_inside colonp g.digits g.digits hfilled hroom
    have hread : (Pton6.token tmp out.length colonp g.digits).run (g.digits ++ []) = _ :=
      Pton6.run_first_digits g.digits g.few
    rw [List.append_nil, Pton6.run_nil, Pton6.finish_inside g.not_empty, hput, ok_bind] at hread
    exact ⟨tmp', hfilled', by rw [List.length_append]; exact hread⟩
  | quad a =>
    obtain ⟨m, text, hdotted⟩ := dotted_split a
    rw [List.length_append, Tail.bytes, a.sized] at hroom
    obtain ⟨tmp', hfilled', hrun⟩ := Pton6.run_quad colonp (Nat.toDigits 10 m.toNat) text
      hfilled hroom (inet_pton4_dotted a)
    have hread : (Pton6.token tmp out.length colonp (dotted a.items)).run
        (Nat.toDigits 10 m.toNat ++ '.' :: text) = _ :=
      Pton6.run_first_digits (Nat.toDigits 10 m.toNat) (few_toDigits m)
    rw [hrun, ← hdotted] at hread
    exact ⟨tmp', hfilled', hread⟩
  | cons g t ih =>
    have hlen : out.length + 2 + t.bytes.length ≤ 16 := by
      rw [List.length_append, Tail.bytes, List.length_append, g.bytes_length] at hroom
      omega
    obtain ⟨next, hnext, hrun⟩ := Pton6.run_group_colon colonp (g.digits ++ ':' :: t.text) g
      hfilled t.text_ne_nil (by omega)
    have hroom' : (out ++ g.bytes ++ t.bytes).length ≤ 16 := by
      rw [List.length_append, List.length_append, g.bytes_length]
      exact hlen
    obtain ⟨last, hlast, hends⟩ := ih hnext hroom'
    have hbytes : out ++ (Tail.cons g t).bytes = out ++ g.bytes ++ t.bytes := by
      rw [Tail.bytes, List.append_assoc]
    rw [hbytes]
    exact ⟨last, hlast, by rw [Tail.text, hrun, hends]⟩

theorem Pton6.run_rest (colonp : Option ℕ) (right : Option Tail) (hfilled : tmp.Filled 0 out)
    (hroom : (out ++ rest_bytes right).length ≤ 16) :
    ∃ tmp' : in6_addr, tmp'.Filled 0 (out ++ rest_bytes right) ∧
      (Pton6.token tmp out.length colonp (rest_text right)).run (rest_text right) =
        Pton6.ends tmp' (out ++ rest_bytes right).length colonp := by
  cases right with
  | none =>
    have hbytes : out ++ rest_bytes none = out := List.append_nil out
    rw [hbytes]
    exact ⟨tmp, hfilled, Pton6.finish_token⟩
  | some t => exact Pton6.run_tail colonp t hfilled hroom

theorem Pton6.run_left (colonp : Option ℕ) (left : List Group) (hfilled : tmp.Filled 0 out)
    (hroom : (out ++ left_bytes left).length ≤ 16) (text : List Char)
    (hcur : cur = left.flatMap (fun g => g.digits ++ [':']) ++ ':' :: text) :
    ∃ tmp' : in6_addr, tmp'.Filled 0 (out ++ left_bytes left) ∧
      (Pton6.token tmp out.length colonp cur).run cur =
        (Pton6.token tmp' (out ++ left_bytes left).length colonp (':' :: text)).run
          (':' :: text) := by
  subst hcur
  induction left generalizing tmp out with
  | nil =>
    have hbytes : out ++ left_bytes [] = out := List.append_nil out
    rw [hbytes]
    exact ⟨tmp, hfilled, rfl⟩
  | cons g left ih =>
    have hbytes : out ++ left_bytes (g :: left) = out ++ g.bytes ++ left_bytes left := by
      simp [left_bytes]
    rw [hbytes] at hroom ⊢
    have hlen : out.length + 2 ≤ 16 := by
      rw [List.length_append, List.length_append, g.bytes_length] at hroom
      omega
    have hmore : left.flatMap (fun g => g.digits ++ [':']) ++ ':' :: text ≠ [] := by simp
    have hsplit : (g :: left).flatMap (fun g => g.digits ++ [':']) ++ ':' :: text =
        g.digits ++ ':' :: (left.flatMap (fun g => g.digits ++ [':']) ++ ':' :: text) := by simp
    obtain ⟨next, hnext, hrun⟩ := Pton6.run_group_colon colonp
      ((g :: left).flatMap (fun g => g.digits ++ [':']) ++ ':' :: text) g hfilled hmore hlen
    obtain ⟨last, hlast, hrest⟩ := ih hnext hroom
    refine ⟨last, hlast, ?_⟩
    rw [← hrest, ← hrun, hsplit]

theorem inet_pton6_full (t : Tail) (h : t.bytes.length = 16) :
    inet_pton6 t.text = .ok (Text6.full t h).address := by
  obtain ⟨c, cs, hcs, hne⟩ := t.head
  have hcolon : ∀ rest, t.text ≠ ':' :: rest := by
    intro rest hrest
    rw [hcs] at hrest
    exact hne (List.cons.inj hrest).1
  obtain ⟨tmp', hfilled, hrun⟩ := Pton6.run_tail none t zeros_filled
    (Nat.le_of_eq h)
  obtain ⟨a, ha, hitems⟩ := Pton6.ends_full hfilled h
  rw [inet_pton6_of_no_colon hcolon]
  refine (hrun.trans ha).trans ?_
  congr 1
  exact Block.ext hitems

/-- From the second colon of "::" on. -/
theorem Pton6.run_gapped (cur : List Char) (right : Option Tail) (hfilled : tmp.Filled 0 out)
    (hlt : (out ++ rest_bytes right).length < 16) :
    ∃ a, (Pton6.token tmp out.length none cur).run (':' :: rest_text right) = .ok a ∧
      a.items = gap_filled out.length (out ++ rest_bytes right) := by
  obtain ⟨tmp', hfilled', hrun⟩ := Pton6.run_rest (some out.length) right hfilled
    (Nat.le_of_lt hlt)
  have hle : out.length ≤ (out ++ rest_bytes right).length := by
    rw [List.length_append]
    omega
  obtain ⟨a, ha, hitems⟩ := Pton6.ends_gap hfilled' hle hlt
  exact ⟨a, by rw [Pton6.run_gap]; exact hrun.trans ha, hitems⟩

theorem inet_pton6_gapped (left : List Group) (right : Option Tail)
    (h : (left_bytes left ++ rest_bytes right).length < 16) :
    inet_pton6 (Text6.gapped left right h).text = .ok (Text6.gapped left right h).address := by
  by_cases hleft : left = []
  · subst hleft
    obtain ⟨a, ha, hitems⟩ := Pton6.run_gapped (':' :: rest_text right) right
      zeros_filled h
    refine ha.trans ?_
    congr 1
    exact Block.ext hitems
  · have htext : (Text6.gapped left right h).text =
        left.flatMap (fun g => g.digits ++ [':']) ++ ':' :: rest_text right :=
      (left_text_colons hleft (rest_text right)).symm
    have hcolon : ∀ rest, (Text6.gapped left right h).text ≠ ':' :: rest := by
      intro rest hrest
      obtain ⟨g, gs, rfl⟩ := List.exists_cons_of_ne_nil hleft
      obtain ⟨c, cs, hcs, hne⟩ := g.head
      rw [htext, List.flatMap_cons, hcs] at hrest
      exact hne (List.cons.inj hrest).1
    have hroom : (left_bytes left).length ≤ 16 := by
      rw [List.length_append] at h
      omega
    obtain ⟨tmp', hfilled, hrun⟩ := Pton6.run_left none left zeros_filled
      hroom (rest_text right) htext
    obtain ⟨a, ha, hitems⟩ := Pton6.run_gapped (':' :: rest_text right) right hfilled h
    rw [inet_pton6_of_no_colon hcolon]
    refine (hrun.trans ha).trans ?_
    congr 1
    exact Block.ext hitems

theorem inet_pton6_text (t : Text6) : inet_pton6 t.text = .ok t.address := by
  cases t with
  | full t h => exact inet_pton6_full t h
  | gapped left right h => exact inet_pton6_gapped left right h

/-! ## The law -/

/-- A text is read as an address if and only if it is a text of this address, and any other text
is refused with UV_EINVAL: no access is outside of an array. -/
theorem addresses_are_read_from_their_texts (src : List Char) :
    (∀ a : in6_addr, inet_pton6 src = .ok a ↔ ∃ t : Text6, t.text = src ∧ t.address = a) ∧
      ((∀ t : Text6, t.text ≠ src) → inet_pton6 src = .error .UV_EINVAL) := by
  constructor
  · intro a
    constructor
    · intro h
      rcases inet_pton6_text_or_einval src with ⟨b, t, hb, htext, haddress⟩ | he
      · rw [hb] at h
        cases h
        exact ⟨t, htext, haddress⟩
      · rw [he] at h
        cases h
    · rintro ⟨t, rfl, rfl⟩
      exact inet_pton6_text t
  · intro hnone
    rcases inet_pton6_text_or_einval src with ⟨b, t, hb, htext, -⟩ | he
    · exact absurd htext (hnone t)
    · exact he

end pyuv.inet
