-- StdIO.__init__ (src/src/process.c), which checks the flags of each kind of source, and the kind
-- of container that the flags of an object select.
import Pyuv.SpawnOptions
import Pyuv.Lib.Runs

set_option linter.style.nameCheck false

namespace pyuv.spawn

open ends ledgers ledgers.Ledger cvectors

/-! ## StdIO.__init__ -/

def UV_IGNORE : BitVec 32 := 0x00
def UV_READABLE_PIPE : BitVec 32 := 0x10
def UV_WRITABLE_PIPE : BitVec 32 := 0x20

/-- The object that is given for a stream: of a subclass of Stream, or not. -/
inductive StreamArg where
  | stream (s : Stream)
  | other
deriving DecidableEq

/-- The arguments of StdIO. -/
structure InitArgs where
  stream : Option StreamArg
  fd : Option Number
  flags : Option Number
deriving DecidableEq

/-- An argument for the format i, with its default. -/
def int_arg (default : Int) : Option Number → Option Int
  | none => some default
  | some (.int n) => if -2 ^ 31 ≤ n ∧ n < 2 ^ 31 then some n else none
  | some .other => none

/-- The flags have no bit outside of the mask. -/
def only (flags mask : BitVec 32) : Bool := flags &&& ~~~mask == 0

/-- The checks of StdIO_tp_init, which give what is to be stored. -/
def checked_init (args : InitArgs) : Except Exc StdIO := do
  let some fd := int_arg (-1) args.fd | .error .raised
  let some flags := int_arg 0 args.flags | .error .raised
  let flags := BitVec.ofInt 32 flags
  match args.stream with
  | some stream =>
    if fd ≠ -1 then
      .error (.ValueError "either stream or fd must be specified, but not both")
    else
      match stream with
      | .other => .error (.TypeError "Only stream objects are supported")
      | .stream s =>
        if only flags (UV_CREATE_PIPE ||| UV_READABLE_PIPE ||| UV_WRITABLE_PIPE |||
            UV_INHERIT_STREAM) then
          .ok ⟨some s, fd, flags⟩
        else .error (.ValueError "invalid flags specified for stream")
  | none =>
    if fd ≠ -1 then
      if only flags UV_INHERIT_FD then .ok ⟨none, fd, flags⟩
      else .error (.ValueError "invalid flags specified for fd")
    else if only flags UV_IGNORE then .ok ⟨none, fd, flags⟩
    else .error (.ValueError "invalid flags specified for ignore")

/-- A StdIO and the calls of its __init__ that are not over: each has stored its stream, and has
its fd and its flags to store once the stream that it replaces is released. -/
structure Building where
  stdio : StdIO
  inner : List StdIO

/-- A begin or an end of __init__. Its arguments may run it again before it is done. -/
inductive InitStep where
  | begin (args : InitArgs)
  | finish

/-- The memory of a new object is zero. A call that is refused changes nothing. -/
def Building.new : Building := ⟨⟨none, 0, UV_IGNORE⟩, []⟩

/-- One such step. -/
def init_step (b : Building) : InitStep → Option Building
  | .begin args =>
    match checked_init args with
    | .ok t => some ⟨{ b.stdio with stream := t.stream }, t :: b.inner⟩
    | .error _ => some b
  | .finish =>
    match b.inner with
    | t :: inner => some ⟨{ b.stdio with fd := t.fd, flags := t.flags }, inner⟩
    | [] => none

/-- What a user can make of a StdIO, also while an __init__ releases a stream. -/
def StdIO.Built (s : StdIO) : Prop := ∃ b, runs.Reach init_step .new b ∧ b.stdio = s

/-- The flags of one kind of source. -/
def one_source (flags : BitVec 32) : Prop :=
  only flags (UV_CREATE_PIPE ||| UV_READABLE_PIPE ||| UV_WRITABLE_PIPE ||| UV_INHERIT_STREAM) ∨
    only flags UV_INHERIT_FD ∨ only flags UV_IGNORE

/-- What is to be stored is what the arguments say, and has been checked. -/
theorem checked_init_ok {args : InitArgs} {t : StdIO} (h : checked_init args = .ok t) :
    int_arg (-1) args.fd = some t.fd ∧
      (∃ n, int_arg 0 args.flags = some n ∧ t.flags = BitVec.ofInt 32 n) ∧ one_source t.flags := by
  unfold checked_init at h
  cases hfd : int_arg (-1) args.fd with
  | none =>
    rw [hfd] at h
    cases h
  | some fd =>
    cases hflags : int_arg 0 args.flags with
    | none =>
      rw [hfd, hflags] at h
      cases h
    | some flags =>
      rw [hfd, hflags] at h
      cases hstream : args.stream with
      | some stream =>
        rw [hstream] at h
        dsimp only at h
        split at h
        · cases h
        · cases stream with
          | other => cases h
          | stream s =>
            dsimp only at h
            split at h
            · rename_i honly
              obtain rfl := Except.ok.inj h
              exact ⟨rfl, ⟨flags, rfl, rfl⟩, .inl honly⟩
            · cases h
      | none =>
        rw [hstream] at h
        dsimp only at h
        split at h
        · split at h
          · rename_i honly
            obtain rfl := Except.ok.inj h
            exact ⟨rfl, ⟨flags, rfl, rfl⟩, .inr (.inl honly)⟩
          · cases h
        · split at h
          · rename_i honly
            obtain rfl := Except.ok.inj h
            exact ⟨rfl, ⟨flags, rfl, rfl⟩, .inr (.inr honly)⟩
          · cases h

/-- What the object has, and what is still to be stored, has been checked. -/
def Building.checked (b : Building) : Prop :=
  one_source b.stdio.flags ∧ ∀ t ∈ b.inner, one_source t.flags

theorem init_step_checked (b : Building) (a : InitStep) (c : Building) (hb : b.checked)
    (h : init_step b a = some c) : c.checked := by
  cases a with
  | begin args =>
    unfold init_step at h
    dsimp only at h
    cases hargs : checked_init args with
    | error e =>
      rw [hargs] at h
      obtain rfl := Option.some.inj h
      exact hb
    | ok t =>
      rw [hargs] at h
      obtain rfl := Option.some.inj h
      refine ⟨hb.1, fun u hu => ?_⟩
      rcases List.mem_cons.mp hu with rfl | hu
      · exact (checked_init_ok hargs).2.2
      · exact hb.2 u hu
  | finish =>
    unfold init_step at h
    dsimp only at h
    cases hinner : b.inner with
    | nil =>
      rw [hinner] at h
      cases h
    | cons t inner =>
      rw [hinner] at h
      obtain rfl := Option.some.inj h
      have hall := hb.2
      rw [hinner] at hall
      exact ⟨hall t List.mem_cons_self, fun u hu => hall u (List.mem_cons_of_mem _ hu)⟩

theorem StdIO.Built.one_source {s : StdIO} (h : s.Built) : one_source s.flags := by
  obtain ⟨b, hreach, rfl⟩ := h
  have hnew : Building.new.checked := ⟨.inr (.inr (by decide)), (fun _ h => nomatch h)⟩
  exact (runs.Reach.keeps init_step_checked hnew hreach).1

/-! ## The kind of a container -/

/-- The bits that uv__process_init_stdio looks at. -/
def kind (flags : BitVec 32) : BitVec 32 :=
  flags &&& (UV_IGNORE ||| UV_CREATE_PIPE ||| UV_INHERIT_FD ||| UV_INHERIT_STREAM)

theorem kind_cases (flags : BitVec 32) : kind flags = 0 ∨ kind flags = 1 ∨ kind flags = 2 ∨
    kind flags = 3 ∨ kind flags = 4 ∨ kind flags = 5 ∨ kind flags = 6 ∨ kind flags = 7 := by
  have hle : (kind flags).toNat ≤ 7 := by
    unfold kind
    rw [BitVec.toNat_and]
    exact Nat.and_le_right
  have heq : kind flags = BitVec.ofNat 32 (kind flags).toNat := by simp
  have hcases : (kind flags).toNat = 0 ∨ (kind flags).toNat = 1 ∨ (kind flags).toNat = 2 ∨
      (kind flags).toNat = 3 ∨ (kind flags).toNat = 4 ∨ (kind flags).toNat = 5 ∨
      (kind flags).toNat = 6 ∨ (kind flags).toNat = 7 := by omega
  rw [heq]
  rcases hcases with h | h | h | h | h | h | h | h
  all_goals
    rw [h]
    decide

theorem kind_and (flags mask : BitVec 32)
    (h : mask &&& (UV_IGNORE ||| UV_CREATE_PIPE ||| UV_INHERIT_FD ||| UV_INHERIT_STREAM) = mask) :
    kind flags &&& mask = flags &&& mask := by
  unfold kind
  rw [BitVec.and_assoc, BitVec.and_comm _ mask, h]

/-- The one combination of an object's flags that is none of the four. -/
theorem kind_of_one_source {flags : BitVec 32} (h : one_source flags) :
    kind flags = 0 ∨ kind flags = 1 ∨ kind flags = 2 ∨ kind flags = 4 ∨ kind flags = 5 := by
  have hmask : ∀ mask allowed : BitVec 32, only flags allowed = true → ~~~allowed &&& mask = mask →
      mask &&& (UV_IGNORE ||| UV_CREATE_PIPE ||| UV_INHERIT_FD ||| UV_INHERIT_STREAM) = mask →
      kind flags &&& mask = 0 := by
    intro mask allowed honly hallowed hsub
    have hzero : flags &&& ~~~allowed = 0 := by simpa [only] using honly
    rw [kind_and flags mask hsub, ← hallowed, ← BitVec.and_assoc, hzero]
    simp
  have hcases := kind_cases flags
  rcases h with h | h | h
  · have hfd := hmask UV_INHERIT_FD _ h (by decide) (by decide)
    rcases hcases with h | h | h | h | h | h | h | h
    all_goals
      rw [h] at hfd ⊢
      revert hfd
      decide
  · have hstream := hmask (UV_CREATE_PIPE ||| UV_INHERIT_STREAM) _ h (by decide) (by decide)
    rcases hcases with h | h | h | h | h | h | h | h
    all_goals
      rw [h] at hstream ⊢
      revert hstream
      decide
  · have hall := hmask 7 _ h (by decide) (by decide)
    rcases hcases with h | h | h | h | h | h | h | h
    all_goals
      rw [h] at hall ⊢
      revert hall
      decide

end pyuv.spawn
