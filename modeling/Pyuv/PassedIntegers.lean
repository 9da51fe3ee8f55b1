-- Which Python ints come to libuv as they are, for each of the functions that pass one on, and
-- which ones are changed on the way.
import Pyuv.Integers
import Pyuv.SpawnOptions
import Pyuv.StdioObjects

set_option linter.style.nameCheck false

namespace pyuv.integers

open cints

/-! ## The contract -/

/-- An exception is raised, or each int that was given is the one that is received. -/
inductive Ending.Exact (args : List (Option Int)) : Ending → Prop where
  | refused (e : Exc) : (Ending.refused e).Exact args
  | failed (callee : Callee) (ints : List Int) (e : Exc) :
    (Ending.called callee ints (some e)).Exact args
  | received (callee : Callee) {ints : List Int}
    (h : List.Forall₂ (fun n arg => ∀ k, arg = some k → n = k) ints args) :
    (Ending.called callee ints none).Exact args

/-- Whatever else happens to the call. -/
def Exact (run : Env → Ending) (args : List (Option Int)) : Prop := ∀ E, (run E).Exact args

/-- The format takes ints of any size, or the int fits. -/
def Format.accepts (f : Format) (n : Int) : Prop := f = .I ∨ f.type.Holds n

/-- The function takes the argument. -/
def Position.Accepts (p : Position) : Option Int → Prop
  | some n => p.format.accepts n ∧ p.check (p.format.type.wrap n) = none
  | none => ∃ v, p.default = some v ∧ p.check v.val = none

/-- Libuv's parameter has room for the argument. -/
def Position.Fits (p : Position) (arg : Option Int) : Prop := ∀ n, arg = some n → p.target.Holds n

/-- Every int is one that the format and the check let through. -/
def Function.accepts (f : Function) (args : List (Option Int)) : Prop :=
  List.Forall₂ Position.Accepts f.positions args

/-- Every int is one that the type in libuv can hold. -/
def Function.fits (f : Function) (args : List (Option Int)) : Prop :=
  List.Forall₂ Position.Fits f.positions args

/-! ## One int -/

theorem checked_AsLong (n : Int) :
    (long.Holds n → ∃ v, checked (PyLong_AsLong n) = .ok v ∧ v.val = n) ∧
      (¬long.Holds n → checked (PyLong_AsLong n) = .error .OverflowError) := by
  unfold PyLong_AsLong
  constructor
  · intro h
    rw [dif_pos h]
    exact ⟨⟨n, h⟩, rfl, rfl⟩
  · intro h
    rw [dif_neg h]
    rfl

theorem checked_AsLongLong (n : Int) :
    (long_long.Holds n → ∃ v, checked (PyLong_AsLongLong n) = .ok v ∧ v.val = n) ∧
      (¬long_long.Holds n → checked (PyLong_AsLongLong n) = .error .OverflowError) := by
  unfold PyLong_AsLongLong
  constructor
  · intro h
    rw [dif_pos h]
    exact ⟨⟨n, h⟩, rfl, rfl⟩
  · intro h
    rw [dif_neg h]
    rfl

theorem long_of_int {n : Int} (h : int.Holds n) : long.Holds n := by
  rw [int_holds_iff] at h
  rw [long_holds_iff]
  omega

/-- What a format makes of an int that it takes is the int, but for the format I. -/
theorem Format.convert_spec (f : Format) (n : Int) :
    (f.accepts n → ∃ v, f.convert n = .ok v ∧ v.val = f.type.wrap n) ∧
      (¬f.accepts n → ∃ e, f.convert n = .error e) := by
  cases f with
  | I =>
    refine ⟨fun _ => ⟨_, rfl, ?_⟩, fun h => absurd (.inl rfl) h⟩
    exact IntType.wrap_wrap (by decide) n
  | l =>
    obtain ⟨hok, herr⟩ := checked_AsLong n
    constructor
    · intro h
      have hholds : long.Holds n := h.resolve_left (by decide)
      obtain ⟨v, hv, hval⟩ := hok hholds
      exact ⟨v, hv, hval.trans hholds.wrap.symm⟩
    · intro h
      exact ⟨_, herr fun hholds => h (.inr hholds)⟩
  | L =>
    obtain ⟨hok, herr⟩ := checked_AsLongLong n
    constructor
    · intro h
      have hholds : long_long.Holds n := h.resolve_left (by decide)
      obtain ⟨v, hv, hval⟩ := hok hholds
      exact ⟨v, hv, hval.trans hholds.wrap.symm⟩
    · intro h
      exact ⟨_, herr fun hholds => h (.inr hholds)⟩
  | i =>
    obtain ⟨hok, herr⟩ := checked_AsLong n
    unfold Format.convert
    dsimp only
    constructor
    · intro h
      have hholds : int.Holds n := h.resolve_left (by decide)
      obtain ⟨v, hv, hval⟩ := hok (long_of_int hholds)
      have hint : int.Holds v.val := hval ▸ hholds
      rw [hv]
      refine ⟨⟨v.val, hint⟩, dif_pos hint, ?_⟩
      exact hval.trans hholds.wrap.symm
    · intro h
      by_cases hlong : long.Holds n
      · obtain ⟨v, hv, hval⟩ := hok hlong
        have hint : ¬int.Holds v.val := fun hholds => h (.inr (hval ▸ hholds))
        rw [hv]
        exact ⟨_, dif_neg hint⟩
      · rw [herr hlong]
        exact ⟨_, rfl⟩

/-- A variable in C has room for the int, or is an unsigned int that is not too narrow to have lost
what the parameter keeps. -/
theorem Position.wrap_wrap (p : Position) {n : Int} (h : p.format.accepts n) :
    p.target.wrap (p.format.type.wrap n) = p.target.wrap n := by
  rcases h with hI | hholds
  · apply IntType.wrap_wrap
    have hnarrow := p.narrow hI
    rw [hI]
    exact hnarrow
  · rw [hholds.wrap]

theorem Position.pass_of_variable (p : Position) {arg : Option Int} {v : Value p.format.type}
    (h : p.variable arg = .ok v) :
    (p.check v.val = none → p.pass arg = .ok (v.convert p.target)) ∧
      ∀ e, p.check v.val = some e → p.pass arg = .error e := by
  unfold Position.pass
  rw [h]
  simp only [bind, Except.bind]
  constructor
  · intro hcheck
    rw [hcheck]
  · intro e hcheck
    rw [hcheck]

theorem Position.pass_spec (p : Position) (arg : Option Int) :
    (p.Accepts arg → ∃ v, p.pass arg = .ok v ∧ ∀ n, arg = some n → v.val = p.target.wrap n) ∧
      (¬p.Accepts arg → ∃ e, p.pass arg = .error e) := by
  unfold Position.Accepts
  cases arg with
  | none =>
    cases hdefault : p.default with
    | none =>
      constructor
      · rintro ⟨v, hv, -⟩
        cases hv
      · intro _
        unfold Position.pass Position.variable
        rw [hdefault]
        exact ⟨_, rfl⟩
    | some v =>
      have hvariable : p.variable none = .ok v := by
        unfold Position.variable
        rw [hdefault]
        rfl
      obtain ⟨hok, herr⟩ := p.pass_of_variable hvariable
      cases hcheck : p.check v.val with
      | none =>
        refine ⟨fun _ => ⟨v.convert p.target, hok hcheck, fun n hn => nomatch hn⟩, fun h => ?_⟩
        exact absurd ⟨v, rfl, hcheck⟩ h
      | some e =>
        constructor
        · rintro ⟨w, hw, hnone⟩
          rw [← Option.some.inj hw, hcheck] at hnone
          cases hnone
        · intro _
          exact ⟨e, herr e hcheck⟩
  | some n =>
    obtain ⟨hconvert, hrefused⟩ := p.format.convert_spec n
    by_cases haccepts : p.format.accepts n
    · obtain ⟨v, hv, hval⟩ := hconvert haccepts
      obtain ⟨hok, herr⟩ := p.pass_of_variable (show p.variable (some n) = .ok v from hv)
      cases hcheck : p.check v.val with
      | none =>
        refine ⟨fun _ => ⟨v.convert p.target, hok hcheck, fun m hm => ?_⟩, fun h => ?_⟩
        · obtain rfl := Option.some.inj hm
          rw [Value.convert_val, hval]
          exact p.wrap_wrap haccepts
        · exact absurd ⟨haccepts, hval ▸ hcheck⟩ h
      | some e =>
        constructor
        · rintro ⟨-, hnone⟩
          rw [← hval, hcheck] at hnone
          cases hnone
        · intro _
          exact ⟨e, herr e hcheck⟩
    · obtain ⟨e, he⟩ := hrefused haccepts
      refine ⟨fun h => absurd h.1 haccepts, fun _ => ⟨e, ?_⟩⟩
      unfold Position.pass Position.variable
      dsimp only
      rw [he]
      rfl

/-! ## All the ints of a function -/

/-- What libuv gets for the ints of a call that is accepted. -/
theorem pass_all_spec (ps : List Position) (args : List (Option Int)) :
    (List.Forall₂ Position.Accepts ps args → ∃ ints, pass_all ps args = .ok ints ∧
      List.Forall₂ (fun (q : Position × Option Int) m => ∀ n, q.2 = some n → m = q.1.target.wrap n)
        (ps.zip args) ints) ∧
      (¬List.Forall₂ Position.Accepts ps args → ∃ e, pass_all ps args = .error e) := by
  induction ps generalizing args with
  | nil =>
    cases args with
    | nil => exact ⟨fun _ => ⟨[], rfl, .nil⟩, fun h => absurd .nil h⟩
    | cons arg args => exact ⟨fun h => (nomatch h), fun _ => ⟨_, rfl⟩⟩
  | cons p ps ih =>
    cases args with
    | nil => exact ⟨fun h => (nomatch h), fun _ => ⟨_, rfl⟩⟩
    | cons arg args =>
      obtain ⟨hok, herr⟩ := p.pass_spec arg
      obtain ⟨ihok, iherr⟩ := ih args
      unfold pass_all
      rw [List.forall₂_cons]
      by_cases haccepts : p.Accepts arg
      · obtain ⟨v, hv, hval⟩ := hok haccepts
        rw [hv]
        by_cases hrest : List.Forall₂ Position.Accepts ps args
        · obtain ⟨ints, hints, hall⟩ := ihok hrest
          rw [hints]
          exact ⟨fun _ => ⟨v.val :: ints, rfl, .cons hval hall⟩,
            fun h => absurd ⟨haccepts, hrest⟩ h⟩
        · obtain ⟨e, he⟩ := iherr hrest
          rw [he]
          exact ⟨fun h => absurd h.2 hrest, fun _ => ⟨e, rfl⟩⟩
      · obtain ⟨e, he⟩ := herr haccepts
        rw [he]
        exact ⟨fun h => absurd h.1 haccepts, fun _ => ⟨e, rfl⟩⟩

theorem received_iff_fits {ps : List Position} {args : List (Option Int)} {ints : List Int}
    (hlength : ps.length = args.length)
    (h : List.Forall₂ (fun (q : Position × Option Int) m => ∀ n, q.2 = some n →
    m = q.1.target.wrap n)
      (ps.zip args) ints) :
    List.Forall₂ (fun n (arg : Option Int) => ∀ k, arg = some k → n = k) ints args ↔
      List.Forall₂ Position.Fits ps args := by
  induction ps generalizing args ints with
  | nil =>
    obtain rfl := List.length_eq_zero_iff.mp hlength.symm
    cases h
    exact iff_of_true .nil .nil
  | cons p ps ih =>
    cases args with
    | nil => cases hlength
    | cons arg args =>
      cases h with
      | cons hhead htail =>
        rw [List.forall₂_cons, List.forall₂_cons, ih (Nat.succ.inj hlength) htail]
        apply and_congr_left
        intro _
        unfold Position.Fits
        apply forall₂_congr
        intro n hn
        rw [hhead n hn]
        exact IntType.wrap_eq_self_iff n

/-- A function is exact if each int that it takes has room in libuv's parameter. -/
theorem Function.exact_iff (f : Function) (args : List (Option Int)) :
    Exact (fun E => f.call E args) args ↔ (f.accepts args → f.fits args) := by
  obtain ⟨hok, herr⟩ := pass_all_spec f.positions args
  unfold Exact Function.call Function.accepts Function.fits
  by_cases haccepts : List.Forall₂ Position.Accepts f.positions args
  · obtain ⟨ints, hints, hall⟩ := hok haccepts
    rw [hints]
    have hiff := received_iff_fits haccepts.length_eq hall
    constructor
    · intro h _
      have hquiet := h ⟨none, fun _ => none⟩
      dsimp only at hquiet
      rw [ite_self] at hquiet
      cases hquiet with
      | received _ hreceived => exact hiff.mp hreceived
    · intro h E
      dsimp only
      cases E.early with
      | some e => exact .refused e
      | none =>
        dsimp only
        cases (if f.tested then E.answer ints else none) with
        | some e => exact .failed _ _ e
        | none => exact .received _ (hiff.mpr (h haccepts))
  · obtain ⟨e, he⟩ := herr haccepts
    rw [he]
    refine iff_of_true (fun E => ?_) (fun h => absurd h haccepts)
    dsimp only
    cases E.early with
    | some e => exact .refused e
    | none => exact .refused e

/-! ## The other ways -/

theorem exact_called {callee : Callee} {n k : Int} {error : Option Exc} (h : error ≠ none ∨ n = k) :
    (Ending.called callee [n] error).Exact [some k] := by
  cases error with
  | some e => exact .failed _ _ e
  | none =>
    refine .received _ (.cons (fun m hm => ?_) .nil)
    rw [← Option.some.inj hm]
    exact h.resolve_left (fun hne => hne rfl)

theorem eq_of_exact {callee : Callee} {n k : Int}
    (h : (Ending.called callee [n] none).Exact [some k]) :
    n = k := by
  cases h with
  | received _ hreceived =>
    cases hreceived with
    | cons hhead _ => exact hhead k rfl

/-- A size that a long takes is cut to an int. -/
theorem buffer_size_set_exact_iff (callee : Callee) (value : Option Int) :
    Exact (fun E => buffer_size_set callee E value) [value] ↔
      ∀ n, value = some n → long.Holds n → int.Holds n := by
  unfold Exact buffer_size_set PyLong_AsLong
  cases value with
  | none =>
    refine iff_of_true (fun E => ?_) (fun n hn => nomatch hn)
    dsimp only
    cases E.early with
    | some e => exact .refused e
    | none => exact .refused _
  | some n =>
    by_cases hlong : long.Holds n
    · dsimp only
      rw [dif_pos hlong]
      constructor
      · intro h m hm _
        obtain rfl := Option.some.inj hm
        have hquiet := h ⟨none, fun _ => none⟩
        exact (IntType.wrap_eq_self_iff n).mp (eq_of_exact hquiet)
      · intro h E
        dsimp only
        cases E.early with
        | some e => exact .refused e
        | none => exact exact_called (.inr ((h n rfl hlong).wrap))
    · dsimp only
      rw [dif_neg hlong]
      refine iff_of_true (fun E => ?_) (fun m hm h => absurd h (Option.some.inj hm ▸ hlong))
      dsimp only
      cases E.early with
      | some e => exact .refused e
      | none =>
        dsimp only
        rw [if_pos (by decide)]
        exact .refused _

theorem getaddrinfo_port_exact (n : Int) : Exact (fun E => getaddrinfo_port E n) [some n] := by
  intro E
  unfold getaddrinfo_port PyLong_AsLong
  dsimp only
  cases E.early with
  | some e => exact .refused e
  | none =>
    by_cases hlong : long.Holds n
    · rw [dif_pos hlong]
      dsimp only
      by_cases hrange : n < 0 ∨ 0xffff < n
      · rw [if_pos hrange]
        exact .refused _
      · rw [if_neg hrange]
        exact exact_called (.inr rfl)
    · rw [dif_neg hlong]
      dsimp only
      rw [if_pos (by decide)]
      exact .refused _

/-- The length of the address that the name asks for. -/
def Name.ints (name : Name) : List (Option Int) :=
  if name.abstract then [some (SUN_FAMILY + name.bytes.length)] else []

theorem size_t_wrap_of_int {n : Int} (h : int.Holds n) :
    size_t.wrap n = if n < 0 then n + 2 ^ 64 else n := by
  rw [int_holds_iff] at h
  unfold IntType.wrap IntType.low IntType.modulus size_t
  simp only [Bool.false_eq_true, if_false]
  split <;> omega

/-- What is left of a name is in the path, but for a name that fits. -/
theorem abstract_call_exact_iff (callee : Callee) (name : Name) :
    (∀ E, (abstract_call callee E (name.len.convert int)).Exact
      [some (SUN_FAMILY + name.bytes.length)]) ↔ (name.bytes.length : Int) < SUN_PATH := by
  let len : Int := name.bytes.length
  let cut : Int := if SUN_PATH ≤ int.wrap len then SUN_PATH - 1 else int.wrap len
  have hnonneg : 0 ≤ len := Int.natCast_nonneg _
  have hint : -2 ^ 31 ≤ int.wrap len ∧ int.wrap len < 2 ^ 31 :=
    (int_holds_iff _).mp (IntType.wrap_holds len)
  have hcut : -2 ^ 31 ≤ cut ∧ cut < SUN_PATH := by
    dsimp only [cut]
    unfold SUN_PATH
    split <;> omega
  have hholds : int.Holds cut := (int_holds_iff _).mpr ⟨hcut.1, by unfold SUN_PATH at hcut; omega⟩
  have hcall : ∀ E, abstract_call callee E (name.len.convert int) =
      if SUN_PATH < size_t.wrap cut then .crashed
      else .called callee [size_t.wrap (SUN_FAMILY + cut)]
        (E.answer [size_t.wrap (SUN_FAMILY + cut)]) :=
    fun E => rfl
  have hwrap := size_t_wrap_of_int hholds
  by_cases hneg : cut < 0
  · rw [if_pos hneg] at hwrap
    have hover : SUN_PATH < size_t.wrap cut := by
      rw [hwrap]
      unfold SUN_PATH
      omega
    apply iff_of_false
    · intro h
      have hcrashed := h ⟨none, fun _ => none⟩
      rw [hcall, if_pos hover] at hcrashed
      cases hcrashed
    · intro hlt
      have hlen : int.wrap len = len :=
        IntType.Holds.wrap ((int_holds_iff _).mpr (by unfold SUN_PATH at hlt; omega))
      have hself : cut = len := (if_neg (by rw [hlen]; omega)).trans hlen
      omega
  · rw [if_neg hneg] at hwrap
    have hin : ¬SUN_PATH < size_t.wrap cut := by omega
    have haddr : size_t.wrap (SUN_FAMILY + cut) = SUN_FAMILY + cut := by
      unfold SUN_PATH at hcut
      unfold SUN_FAMILY
      rw [size_t_wrap_of_int ((int_holds_iff _).mpr (by omega)), if_neg (by omega)]
    constructor
    · intro h
      have hquiet := h ⟨none, fun _ => none⟩
      rw [hcall, if_neg hin, haddr] at hquiet
      have heq := eq_of_exact hquiet
      omega
    · intro hlt E
      have hlen : int.wrap len = len :=
        IntType.Holds.wrap ((int_holds_iff _).mpr (by unfold SUN_PATH at hlt; omega))
      have hself : cut = len := (if_neg (by rw [hlen]; omega)).trans hlen
      rw [hcall, if_neg hin, haddr, hself]
      exact exact_called (.inr rfl)

/-- A function of a name, which makes a system call for an abstract one. -/
theorem exact_of_name_iff (callee other : Callee) (name : Name) (answer : Env → Option Exc) :
    Exact (fun E =>
      match E.early with
      | some e => .refused e
      | none =>
        if name.abstract then abstract_call callee E (name.len.convert int)
        else .called other [] (answer E)) name.ints ↔
      (name.abstract → (name.bytes.length : Int) < SUN_PATH) := by
  unfold Exact Name.ints
  by_cases habstract : name.abstract
  · rw [← abstract_call_exact_iff callee name, if_pos habstract]
    constructor
    · intro h _ E
      have hlater := h ⟨none, E.answer⟩
      dsimp only at hlater
      rw [if_pos habstract] at hlater
      exact hlater
    · intro h E
      dsimp only
      cases E.early with
      | some e => exact .refused e
      | none =>
        dsimp only
        rw [if_pos habstract]
        exact h habstract E
  · rw [if_neg habstract]
    refine iff_of_true (fun E => ?_) (fun h => absurd h habstract)
    dsimp only
    cases E.early with
    | some e => exact .refused e
    | none =>
      dsimp only
      rw [if_neg habstract]
      cases answer E with
      | some e => exact .failed _ _ e
      | none => exact .received _ .nil

/-! ## StdIO and Process.spawn -/

theorem unsigned_of_int_bits (n : Int) :
    ((BitVec.ofInt 32 n).toNat : Int) = n ↔ unsigned_int.Holds n := by
  rw [unsigned_int_holds_iff, BitVec.toNat_ofInt]
  omega

theorem and_of_only {flags mask : BitVec 32} (h : spawn.only flags mask = true) :
    flags &&& mask = flags := by
  have hzero : flags &&& ~~~mask = 0 := by simpa [spawn.only] using h
  ext i hi
  have hbit := congrArg (fun x => x.getLsbD i) hzero
  simp [hi] at hbit ⊢
  exact hbit

theorem small_of_one_source {flags : BitVec 32} (h : spawn.one_source flags) :
    flags.toNat < 2 ^ 31 := by
  have hle : ∀ mask : BitVec 32, spawn.only flags mask = true → flags.toNat ≤ mask.toNat := by
    intro mask honly
    rw [← and_of_only honly, BitVec.toNat_and]
    exact Nat.and_le_right
  rcases h with h | h | h
  · exact Nat.lt_of_le_of_lt (hle _ h) (by decide)
  · exact Nat.lt_of_le_of_lt (hle _ h) (by decide)
  · exact Nat.lt_of_le_of_lt (hle _ h) (by decide)

theorem int_arg_int {default n m : Int} (h : spawn.int_arg default (some (.int n)) = some m) :
    m = n ∧ int.Holds n := by
  unfold spawn.int_arg at h
  dsimp only at h
  rw [int_holds_iff]
  by_cases hrange : -2 ^ 31 ≤ n ∧ n < 2 ^ 31
  · rw [if_pos hrange] at h
    exact ⟨(Option.some.inj h).symm, hrange⟩
  · rw [if_neg hrange] at h
    cases h

/-- The descriptor and the flags that an object has for libuv after an __init__ that returns. -/
theorem checked_init_exact {args : spawn.InitArgs} {t : spawn.StdIO}
    (h : spawn.checked_init args = .ok t) :
    (∀ n, args.fd = some (.int n) → t.fd = n) ∧
      ∀ n, args.flags = some (.int n) → (t.flags.toNat : Int) = n := by
  obtain ⟨hfd, ⟨m, hm, hflags⟩, hone⟩ := spawn.checked_init_ok h
  constructor
  · intro n hn
    rw [hn] at hfd
    exact (int_arg_int hfd).1
  · intro n hn
    rw [hn] at hm
    obtain ⟨rfl, hholds⟩ := int_arg_int hm
    rw [int_holds_iff] at hholds
    have hsmall := small_of_one_source hone
    rw [hflags] at hsmall ⊢
    rw [unsigned_of_int_bits, unsigned_int_holds_iff]
    rw [BitVec.toNat_ofInt] at hsmall
    omega

/-- uv_spawn gets the ids and the flags that were given. -/
structure Received (call : spawn.Call) (o : spawn.uv_process_options_t) : Prop where
  uid : ∀ n, call.uid = some (.int n) → (o.uid.toNat : Int) = n
  gid : ∀ n, call.gid = some (.int n) → (o.gid.toNat : Int) = n
  flags : ∀ n, call.flags = some (.int n) → (o.flags.toNat : Int) = n

/-- Whatever uv_spawn answers, where memory had anything before. -/
def SpawnExact (M : spawn.Machine) (call : spawn.Call) : Prop :=
  ∀ answer prior L o, spawn.Reaches { M with uv_spawn := answer } prior call L o →
    (∃ t, spawn.Process_func_spawn { M with uv_spawn := answer } prior call
      (spawn.State.initial L) = .ok false t) ∨ Received call o

/-- The ints of a spawn, and the numbers of its descriptors, fit into their types. -/
structure SpawnFits (call : spawn.Call) : Prop where
  uid : ∀ n, call.uid = some (.int n) → uv_uid_t.Holds n
  gid : ∀ n, call.gid = some (.int n) → uv_gid_t.Holds n
  flags : ∀ n, call.flags = some (.int n) → 0 ≤ n

theorem received_iff_fits_spawn {call : spawn.Call} {vars : spawn.Vars} {p : spawn.Prepared}
    {cs : Option (List spawn.uv_stdio_container_t)} {o : spawn.uv_process_options_t}
    (hvars : call.vars = some vars) (ho : spawn.Passed vars p cs o) :
    Received call o ↔ SpawnFits call := by
  obtain ⟨huid, hgid, hflags⟩ := spawn.vars_ints hvars
  have hunsigned : ∀ {x : BitVec 32} {n : Int}, spawn.unsigned_var (some (.int n)) = some x →
      ((x.toNat : Int) = n ↔ unsigned_int.Holds n) := by
    intro x n hx
    rw [← Option.some.inj hx]
    exact unsigned_of_int_bits n
  have hint : ∀ {x : BitVec 32} {n : Int}, spawn.int_var (some (.int n)) = some x →
      ((x.toNat : Int) = n ↔ 0 ≤ n) := by
    intro x n hx
    unfold spawn.int_var at hx
    dsimp only at hx
    by_cases hrange : -2 ^ 31 ≤ n ∧ n < 2 ^ 31
    · rw [if_pos hrange] at hx
      rw [← Option.some.inj hx, unsigned_of_int_bits, unsigned_int_holds_iff]
      omega
    · rw [if_neg hrange] at hx
      cases hx
  constructor
  · rintro ⟨ruid, rgid, rflags⟩
    refine ⟨fun n hn => ?_, fun n hn => ?_, fun n hn => ?_⟩
    · rw [hn] at huid
      exact (hunsigned huid).mp (ho.uid ▸ ruid n hn)
    · rw [hn] at hgid
      exact (hunsigned hgid).mp (ho.gid ▸ rgid n hn)
    · rw [hn] at hflags
      exact (hint hflags).mp (ho.flags ▸ rflags n hn)
  · rintro ⟨fuid, fgid, fflags⟩
    refine ⟨fun n hn => ?_, fun n hn => ?_, fun n hn => ?_⟩
    · rw [hn] at huid
      rw [ho.uid]
      exact (hunsigned huid).mpr (fuid n hn)
    · rw [hn] at hgid
      rw [ho.gid]
      exact (hunsigned hgid).mpr (fgid n hn)
    · rw [hn] at hflags
      rw [ho.flags]
      exact (hint hflags).mpr (fflags n hn)

theorem spawn_exact_iff (M : spawn.Machine) (call : spawn.Call) :
    SpawnExact M call ↔
      ∀ vars, call.vars = some vars → spawn.Ready M call vars → SpawnFits call := by
  constructor
  · intro h vars hvars hready
    let answer : spawn.uv_process_options_t → Option Int := fun _ => none
    let prior : spawn.Prior := ⟨.object .None, fun _ => []⟩
    have hcb : call.callback prior = .object (call.exit_callback.getD .None) := by
      unfold spawn.Call.callback
      cases call.exit_callback <;> rfl
    obtain ⟨p, hp⟩ := Option.ne_none_iff_exists'.mp (hready.prepared prior)
    obtain ⟨cs, hcs⟩ := hready.stdio
    let M' : spawn.Machine := { M with uv_spawn := answer }
    have hp' : spawn.prepared M' prior vars = some p := hp
    have hcs' : spawn.stdio_outcome M' vars.stdio = .built cs := hcs
    have hacc' : vars.accepted M' (call.exit_callback.getD .None) := hready.accepted
    obtain ⟨o, hreaches, ho⟩ := spawn.reaches_of_prepared hvars hcb hacc' hp' hcs' ⟨0, 0⟩
    obtain ⟨u, hu⟩ :=
      spawn.aborts_of_prepared hvars hcb hacc' hp' hcs' (fun _ => rfl) ⟨0, 0⟩
    rcases h answer prior ⟨0, 0⟩ o hreaches with ⟨t, ht⟩ | hreceived
    · cases hu.symm.trans ht
    · exact (received_iff_fits_spawn hvars ho).mp hreceived
  · intro h answer prior L o hreaches
    obtain ⟨vars, c, p, cs, hvars, hcb, hacc, hp, hout, ho⟩ := spawn.ready_of_reaches hreaches
    have hready : spawn.Ready { M with uv_spawn := answer } call vars :=
      spawn.ready_of_accepted hcb hacc hp hout
    exact .inr ((received_iff_fits_spawn hvars ho).mpr
      (h vars hvars ⟨hready.accepted, hready.prepared, hready.stdio⟩))

/-! ## The functions that pass their ints on -/

/-- The six setters. -/
inductive BufferSize where
  | TCP_sndbuf
  | TCP_rcvbuf
  | UDP_sndbuf
  | UDP_rcvbuf
  | Pipe_sndbuf
  | Pipe_rcvbuf

/-- The function of the extension behind each of them. -/
def BufferSize.set : BufferSize → Env → Option Int → Ending
  | .TCP_sndbuf => TCP_sndbuf_set
  | .TCP_rcvbuf => TCP_rcvbuf_set
  | .UDP_sndbuf => UDP_sndbuf_set
  | .UDP_rcvbuf => UDP_rcvbuf_set
  | .Pipe_sndbuf => Pipe_sndbuf_set
  | .Pipe_rcvbuf => Pipe_rcvbuf_set

theorem BufferSize.exact_iff (b : BufferSize) (value : Option Int) :
    Exact (fun E => b.set E value) [value] ↔ ∀ n, value = some n → long.Holds n → int.Holds n := by
  have hset : ∃ callee, b.set = buffer_size_set callee := by
    cases b
    · exact ⟨_, rfl⟩
    · exact ⟨_, rfl⟩
    · exact ⟨_, rfl⟩
    · exact ⟨_, rfl⟩
    · exact ⟨_, rfl⟩
    · exact ⟨_, rfl⟩
  obtain ⟨callee, hset⟩ := hset
  rw [hset]
  exact buffer_size_set_exact_iff callee value

/-- A call that takes a Python int, or the length of an abstract name. -/
inductive Call where
  | function (f : Operation) (args : List (Option Int))
  | buffer_size (b : BufferSize) (value : Option Int)
  | port (n : Int)
  | bind (name : Name)
  | connect (name : Name)
  | stdio (args : spawn.InitArgs)
  | spawn (M : spawn.Machine) (call : spawn.Call)

/-- Whatever libuv and Python do, the call raises or libuv gets the ints themselves. An object of
StdIO keeps them for spawn. -/
def Call.IsExact : Call → Prop
  | .function f args => Exact (fun E => f.function.call E args) args
  | .buffer_size b value => Exact (fun E => b.set E value) [value]
  | .port n => Exact (fun E => getaddrinfo_port E n) [some n]
  | .bind name => Exact (fun E => Pipe_func_bind E name) name.ints
  | .connect name => Exact (fun E => Pipe_func_connect E name) name.ints
  | .stdio args => ∀ t, spawn.checked_init args = .ok t →
    (∀ n, args.fd = some (.int n) → t.fd = n) ∧
      ∀ n, args.flags = some (.int n) → (t.flags.toNat : Int) = n
  | .spawn M call => SpawnExact M call

/-- The ints have room, where the formats and the checks accept them. -/
def Call.Fits : Call → Prop
  | .function f args => f.function.accepts args → f.function.fits args
  | .buffer_size _ value => ∀ n, value = some n → long.Holds n → int.Holds n
  | .port _ => True
  | .bind name => name.abstract → (name.bytes.length : Int) < SUN_PATH
  | .connect name => name.abstract → (name.bytes.length : Int) < SUN_PATH
  | .stdio _ => True
  | .spawn M call => ∀ vars, call.vars = some vars → spawn.Ready M call vars → SpawnFits call

theorem integers_are_passed_exactly_iff (c : Call) : c.IsExact ↔ c.Fits := by
  cases c with
  | function f args => exact f.function.exact_iff args
  | buffer_size b value => exact b.exact_iff value
  | port n => exact iff_of_true (getaddrinfo_port_exact n) trivial
  | bind name => exact exact_of_name_iff .bind .uv_pipe_bind name fun E => E.answer []
  | connect name => exact exact_of_name_iff .connect .uv_pipe_connect name fun _ => none
  | stdio args => exact iff_of_true (fun t h => checked_init_exact h) trivial
  | spawn M call => exact spawn_exact_iff M call

/-- Descriptor 2 ^ 32 + 3: descriptor 3 is closed. -/
theorem close_closes_another_descriptor : ¬∀ c : Call, c.IsExact := by
  intro h
  have hexact : Exact (fun E => FS_func_close.call E [some (2 ^ 32 + 3)]) [some (2 ^ 32 + 3)] :=
    h (.function .FS_func_close [some (2 ^ 32 + 3)])
  have hclose := (FS_func_close.exact_iff [some (2 ^ 32 + 3)]).mp hexact
  have haccepts : FS_func_close.accepts [some (2 ^ 32 + 3)] :=
    .cons ⟨.inr (by decide), rfl⟩ .nil
  cases hclose haccepts with
  | cons hfits _ => exact absurd (hfits _ rfl) (by decide)

end pyuv.integers
