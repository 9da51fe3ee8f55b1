-- uv_spawn (src/deps/libuv/src/unix/process.c) on the containers and the flags of its options: what
-- it asserts, what it returns an error for, and which options it can take.
import Pyuv.StdioObjects

set_option linter.style.nameCheck false

namespace pyuv.spawn

/-! ## uv_spawn -/

/-- The types of streams. -/
inductive UvType where
  | NAMED_PIPE
  | TCP
  | TTY
deriving DecidableEq

/-- A stream as uv_spawn finds it: with the memory of a new object, initialized, closed by
uv_close, or freed. -/
inductive uv_stream_t where
  | zeroed
  | opened (type : UvType) (fd : Int)
  | closing (type : UvType) (fd : Int)
  | freed
deriving DecidableEq

/-- The descriptor in the structure. -/
def uv_stream_t.fd : uv_stream_t → Int
  | .zeroed => 0
  | .opened _ fd => fd
  | .closing _ fd => fd
  | .freed => 0

/-- The type in it, where it was set up. -/
def uv_stream_t.type : uv_stream_t → Option UvType
  | .opened type _ => some type
  | .closing type _ => some type
  | _ => none

/-- The streams at their addresses, with descriptors below the limit of the process. -/
structure World where
  streams : Nat → uv_stream_t
  limit : Nat
  bounded : ∀ p, (streams p).fd < limit

/-- An error of the system, negative. -/
structure Errno where
  n : Int
  negative : n < 0

def EINVAL : Errno := ⟨-22, by decide⟩
def ENOMEM : Errno := ⟨-12, by decide⟩
def EBUSY : Errno := ⟨-16, by decide⟩

/-- What the system answers. A new descriptor is one that nothing has. -/
structure Os (w : World) where
  pipes_alloc : Bool
  socketpair : Nat → Except Errno Nat
  make_pipe : Option Errno
  fork : Option Errno
  exec : Option Errno
  fresh : ∀ i fd p, socketpair i = .ok fd → (w.streams p).fd ≠ fd
  distinct : ∀ i j fd, socketpair i = .ok fd → socketpair j = .ok fd → i = j

/-- A failed assertion, or memory that is not there; and an error that is returned. -/
inductive Halt where
  | aborted
  | err (e : Errno)

variable {w : World} (os : Os w)

/-- The parent's end of the pipe, where there is one. -/
def uv__process_init_stdio (i : Nat) (c : uv_stdio_container_t) : Except Halt (Option Nat) :=
  if kind c.flags = UV_IGNORE then .ok none
  else if kind c.flags = UV_CREATE_PIPE then
    match c.data with
    | .stream (some p) =>
      if w.streams p = .freed then .error .aborted
      else if (w.streams p).type ≠ some .NAMED_PIPE then .error (.err EINVAL)
      else
        match os.socketpair i with
        | .ok fd => .ok (some fd)
        | .error e => .error (.err e)
    | _ => .error .aborted
  else if kind c.flags = UV_INHERIT_FD then
    match c.data with
    | .fd n => if n = -1 then .error (.err EINVAL) else .ok none
    | _ => .error .aborted
  else if kind c.flags = UV_INHERIT_STREAM then
    match c.data with
    | .stream (some p) =>
      if w.streams p = .freed then .error .aborted
      else if (w.streams p).fd = -1 then .error (.err EINVAL)
      else .ok none
    | _ => .error .aborted
  else .error .aborted

/-- The pipes of the containers from `i` on. -/
def init_loop : Nat → List uv_stdio_container_t → Except Halt (List (Option Nat))
  | _, [] => .ok []
  | i, c :: cs => do
    let pipe ← uv__process_init_stdio os i c
    let pipes ← init_loop (i + 1) cs
    return pipe :: pipes

/-- The stream gets a descriptor, and must not have another one. -/
def uv__stream_open (streams : Nat → uv_stream_t) (p fd : Nat) :
    Except Halt (Nat → uv_stream_t) :=
  if (streams p).fd = -1 ∨ (streams p).fd = fd then
    match streams p with
    | .opened type _ => .ok (Function.update streams p (.opened type fd))
    | .closing type _ => .ok (Function.update streams p (.closing type fd))
    | _ => .error .aborted
  else .error (.err EBUSY)

/-- The parent's end of a pipe goes to the stream of the container. -/
def uv__process_open_stream (streams : Nat → uv_stream_t) (c : uv_stdio_container_t)
    (pipe : Option Nat) : Except Halt (Nat → uv_stream_t) :=
  match pipe, c.data with
  | some fd, .stream (some p) =>
    if c.flags &&& UV_CREATE_PIPE = 0 then .ok streams else uv__stream_open streams p fd
  | _, _ => .ok streams

/-- The streams of all containers. -/
def open_loop (streams : Nat → uv_stream_t) : List (uv_stdio_container_t × Option Nat) →
    Except Halt (Nat → uv_stream_t)
  | [] => .ok streams
  | (c, pipe) :: cs => do
    let streams ← uv__process_open_stream streams c pipe
    open_loop streams cs

def UV_PROCESS_FLAGS : BitVec 32 := 0x1f

/-- An error of the system is returned. -/
def failed : Option Errno → Except Halt Unit
  | none => .ok ()
  | some e => .error (.err e)

/-- The function up to the started process, with its assertions on the options. -/
def uv_spawn (o : uv_process_options_t) : Except Halt Int :=
  if only o.flags UV_PROCESS_FLAGS then
    if os.pipes_alloc then do
      let pipes ← init_loop os 0 (o.stdio.getD [])
      failed os.make_pipe
      failed os.fork
      let _ ← open_loop w.streams ((o.stdio.getD []).zip pipes)
      return (os.exec.map Errno.n).getD 0
    else .error (.err ENOMEM)
  else .error .aborted

/-- What it returns, if it does. -/
def returned : Except Halt Int → Option Int
  | .ok n => some n
  | .error (.err e) => some e.n
  | .error .aborted => none

/-- A machine with this uv_spawn. -/
def Machine.on (M : Machine) (os : Os w) : Machine :=
  { M with uv_spawn := fun o => returned (spawn.uv_spawn os o) }

/-! ## What uv_spawn needs -/

/-- The stream of a container, if there is one at its address. -/
def stream_of (w : World) (c : uv_stdio_container_t) : Option uv_stream_t :=
  match c.data with
  | .stream (some p) => if w.streams p = .freed then none else some (w.streams p)
  | _ => none

/-- What libuv needs of a container. -/
def Fit (w : World) (c : uv_stdio_container_t) : Prop :=
  kind c.flags = UV_IGNORE ∨
    kind c.flags = UV_CREATE_PIPE ∧ (∃ fd, stream_of w c = some (.opened .NAMED_PIPE fd)) ∨
    kind c.flags = UV_INHERIT_FD ∧ (∃ n, c.data = .fd n) ∨
    kind c.flags = UV_INHERIT_STREAM ∧ (∃ s, stream_of w c = some s ∧ s ≠ .zeroed)

/-- What uv_spawn asserts of its options. -/
def Preconditions (w : World) (o : uv_process_options_t) : Prop :=
  only o.flags UV_PROCESS_FLAGS = true ∧ ∀ c ∈ o.stdio.getD [], Fit w c

/-- A pipe is to be made and a stream to be inherited, or there is no stream to do it with. -/
def Fatal (w : World) (c : uv_stdio_container_t) : Prop :=
  kind c.flags = UV_CREATE_PIPE ||| UV_INHERIT_STREAM ∨
    (kind c.flags = UV_CREATE_PIPE ∨ kind c.flags = UV_INHERIT_STREAM) ∧ stream_of w c = none

/-- No pipe for the pipe that is to be made, or no descriptor for the child. -/
def Invalid (w : World) (c : uv_stdio_container_t) : Prop :=
  kind c.flags = UV_CREATE_PIPE ∧
      (∃ s, stream_of w c = some s ∧ s.type ≠ some .NAMED_PIPE) ∨
    kind c.flags = UV_INHERIT_FD ∧ c.data = .fd (-1) ∨
    kind c.flags = UV_INHERIT_STREAM ∧ (∃ s, stream_of w c = some s ∧ s.fd = -1)

/-- The address of the pipe that is to be made. -/
def pipe_of (c : uv_stdio_container_t) : Option Nat :=
  if kind c.flags = UV_CREATE_PIPE then
    match c.data with
    | .stream p => p
    | _ => none
  else none

/-- A pipe that has a descriptor already, or that an earlier container has. -/
def Busy (w : World) : List Nat → List uv_stdio_container_t → Prop
  | _, [] => False
  | taken, c :: cs =>
    match pipe_of c with
    | some p => p ∈ taken ∨ (w.streams p).fd ≠ -1 ∨ Busy w (p :: taken) cs
    | none => Busy w taken cs

/-- The data is of the kind that the flags say. -/
structure Shaped (c : uv_stdio_container_t) : Prop where
  source : one_source c.flags
  stream : c.flags &&& (UV_CREATE_PIPE ||| UV_INHERIT_STREAM) ≠ 0 → ∃ h, c.data = .stream h
  fd : c.flags &&& (UV_CREATE_PIPE ||| UV_INHERIT_STREAM) = 0 →
    c.flags &&& UV_INHERIT_FD ≠ 0 → ∃ n, c.data = .fd n

theorem shaped_of_container {s : StdIO} {c : uv_stdio_container_t} (hs : s.Built)
    (hc : container s = some c) : Shaped c := by
  unfold container at hc
  by_cases hstream : s.flags &&& (UV_CREATE_PIPE ||| UV_INHERIT_STREAM) ≠ 0
  · rw [if_pos hstream] at hc
    obtain ⟨stream, -, rfl⟩ := Option.map_eq_some_iff.mp hc
    exact ⟨hs.one_source, fun _ => ⟨_, rfl⟩, fun h => absurd h hstream⟩
  · rw [if_neg hstream] at hc
    by_cases hfd : s.flags &&& UV_INHERIT_FD ≠ 0
    · rw [if_pos hfd] at hc
      obtain rfl := Option.some.inj hc
      exact ⟨hs.one_source, fun h => absurd h hstream, fun _ _ => ⟨_, rfl⟩⟩
    · rw [if_neg hfd] at hc
      obtain rfl := Option.some.inj hc
      exact ⟨hs.one_source, fun h => absurd h hstream, fun _ h => absurd h hfd⟩

/-- The five kinds of a container, each with the data that it has. -/
inductive Kind (c : uv_stdio_container_t) : Prop where
  | ignore (h : kind c.flags = 0)
  | create (h : kind c.flags = 1) (p : Option Nat) (hp : c.data = .stream p)
  | inherit_fd (h : kind c.flags = 2) (n : Int) (hn : c.data = .fd n)
  | inherit_stream (h : kind c.flags = 4) (p : Option Nat) (hp : c.data = .stream p)
  | both (h : kind c.flags = 5)

theorem Shaped.kind {c : uv_stdio_container_t} (h : Shaped c) : Kind c := by
  have hstream := kind_and c.flags (UV_CREATE_PIPE ||| UV_INHERIT_STREAM) (by decide)
  have hfd := kind_and c.flags UV_INHERIT_FD (by decide)
  rcases kind_of_one_source h.source with hk | hk | hk | hk | hk
  · exact .ignore hk
  · obtain ⟨p, hp⟩ := h.stream (by rw [← hstream, hk]; decide)
    exact .create hk p hp
  · obtain ⟨n, hn⟩ := h.fd (by rw [← hstream, hk]; decide) (by rw [← hfd, hk]; decide)
    exact .inherit_fd hk n hn
  · obtain ⟨p, hp⟩ := h.stream (by rw [← hstream, hk]; decide)
    exact .inherit_stream hk p hp
  · exact .both hk

/-- What uv__process_init_stdio comes to. -/
inductive InitStdio (os : Os w) (i : Nat) (c : uv_stdio_container_t) : Prop where
  | fatal (h : Fatal w c) (hi : ¬Invalid w c)
      (hrun : uv__process_init_stdio os i c = .error .aborted)
  | invalid (h : Invalid w c) (hf : ¬Fatal w c)
      (hrun : uv__process_init_stdio os i c = .error (.err EINVAL))
  | plain (hf : ¬Fatal w c) (hi : ¬Invalid w c) (hp : pipe_of c = none)
      (hrun : uv__process_init_stdio os i c = .ok none)
  | pipe (hf : ¬Fatal w c) (hi : ¬Invalid w c) (p : Nat) (hp : pipe_of c = some p)
      (hcreate : c.data = .stream (some p) ∧ c.flags &&& UV_CREATE_PIPE ≠ 0)
      (htype : (w.streams p).type = some .NAMED_PIPE)
      (hrun : uv__process_init_stdio os i c =
        match os.socketpair i with
        | .ok fd => .ok (some fd)
        | .error e => .error (.err e))

theorem stream_of_freed {c : uv_stdio_container_t} {p : Nat} (hp : c.data = .stream (some p))
    (h : w.streams p = .freed) : stream_of w c = none := by
  unfold stream_of
  rw [hp]
  exact if_pos h

theorem stream_of_there {c : uv_stdio_container_t} {p : Nat} (hp : c.data = .stream (some p))
    (h : w.streams p ≠ .freed) : stream_of w c = some (w.streams p) := by
  unfold stream_of
  rw [hp]
  exact if_neg h

theorem stream_of_null {c : uv_stdio_container_t} (hp : c.data = .stream none) :
    stream_of w c = none := by
  unfold stream_of
  rw [hp]

theorem init_stdio (os : Os w) (i : Nat) {c : uv_stdio_container_t} (hc : Shaped c) :
    InitStdio os i c := by
  cases hc.kind with
  | ignore h =>
    refine .plain ?_ ?_ ?_ ?_
    · simp [Fatal, h, UV_CREATE_PIPE, UV_INHERIT_STREAM]
    · simp [Invalid, h, UV_CREATE_PIPE, UV_INHERIT_STREAM, UV_INHERIT_FD]
    · simp [pipe_of, h, UV_CREATE_PIPE]
    · simp [uv__process_init_stdio, h, UV_IGNORE]
  | both h =>
    refine .fatal ?_ ?_ ?_
    · simp [Fatal, h, UV_CREATE_PIPE, UV_INHERIT_STREAM]
    · simp [Invalid, h, UV_CREATE_PIPE, UV_INHERIT_STREAM, UV_INHERIT_FD]
    · simp [uv__process_init_stdio, h, UV_IGNORE, UV_CREATE_PIPE, UV_INHERIT_STREAM, UV_INHERIT_FD]
  | inherit_fd h n hn =>
    by_cases hone : n = -1
    · refine .invalid ?_ ?_ ?_
      · simp [Invalid, h, hn, hone, UV_CREATE_PIPE, UV_INHERIT_STREAM, UV_INHERIT_FD]
      · simp [Fatal, h, UV_CREATE_PIPE, UV_INHERIT_STREAM]
      · simp [uv__process_init_stdio, h, hn, hone, UV_IGNORE, UV_CREATE_PIPE, UV_INHERIT_FD]
    · refine .plain ?_ ?_ ?_ ?_
      · simp [Fatal, h, UV_CREATE_PIPE, UV_INHERIT_STREAM]
      · simp [Invalid, h, hn, hone, UV_CREATE_PIPE, UV_INHERIT_STREAM, UV_INHERIT_FD]
      · simp [pipe_of, h, UV_CREATE_PIPE]
      · simp [uv__process_init_stdio, h, hn, hone, UV_IGNORE, UV_CREATE_PIPE, UV_INHERIT_FD]
  | inherit_stream h p hp =>
    have hrun : uv__process_init_stdio os i c =
        match c.data with
        | .stream (some p) =>
          if w.streams p = .freed then .error .aborted
          else if (w.streams p).fd = -1 then .error (.err EINVAL)
          else .ok none
        | _ => .error .aborted := by
      simp [uv__process_init_stdio, h, UV_IGNORE, UV_CREATE_PIPE, UV_INHERIT_FD, UV_INHERIT_STREAM]
    have hfatal : Fatal w c ↔ stream_of w c = none := by
      simp [Fatal, h, UV_CREATE_PIPE, UV_INHERIT_STREAM]
    have hinvalid : Invalid w c ↔ ∃ s, stream_of w c = some s ∧ s.fd = -1 := by
      simp [Invalid, h, UV_CREATE_PIPE, UV_INHERIT_STREAM, UV_INHERIT_FD]
    cases p with
    | none =>
      have hnone := stream_of_null (w := w) hp
      rw [hp] at hrun
      exact .fatal (hfatal.mpr hnone) (by simp [hinvalid, hnone]) hrun
    | some p =>
      rw [hp] at hrun
      dsimp only at hrun
      by_cases hfreed : w.streams p = .freed
      · rw [if_pos hfreed] at hrun
        have hnone := stream_of_freed hp hfreed
        exact .fatal (hfatal.mpr hnone) (by simp [hinvalid, hnone]) hrun
      · rw [if_neg hfreed] at hrun
        have hsome := stream_of_there hp hfreed
        by_cases hfd : (w.streams p).fd = -1
        · rw [if_pos hfd] at hrun
          exact .invalid (hinvalid.mpr ⟨_, hsome, hfd⟩) (by simp [hfatal, hsome]) hrun
        · rw [if_neg hfd] at hrun
          refine .plain (by simp [hfatal, hsome]) (by simp [hinvalid, hsome, hfd]) ?_ hrun
          simp [pipe_of, h, UV_CREATE_PIPE]
  | create h p hp =>
    have hrun : uv__process_init_stdio os i c =
        match c.data with
        | .stream (some p) =>
          if w.streams p = .freed then .error .aborted
          else if (w.streams p).type ≠ some .NAMED_PIPE then .error (.err EINVAL)
          else
            match os.socketpair i with
            | .ok fd => .ok (some fd)
            | .error e => .error (.err e)
        | _ => .error .aborted := by
      simp [uv__process_init_stdio, h, UV_IGNORE, UV_CREATE_PIPE]
    have hfatal : Fatal w c ↔ stream_of w c = none := by
      simp [Fatal, h, UV_CREATE_PIPE, UV_INHERIT_STREAM]
    have hinvalid : Invalid w c ↔ ∃ s, stream_of w c = some s ∧ s.type ≠ some .NAMED_PIPE := by
      simp [Invalid, h, UV_CREATE_PIPE, UV_INHERIT_STREAM, UV_INHERIT_FD]
    cases p with
    | none =>
      have hnone := stream_of_null (w := w) hp
      rw [hp] at hrun
      exact .fatal (hfatal.mpr hnone) (by simp [hinvalid, hnone]) hrun
    | some p =>
      rw [hp] at hrun
      dsimp only at hrun
      by_cases hfreed : w.streams p = .freed
      · rw [if_pos hfreed] at hrun
        have hnone := stream_of_freed hp hfreed
        exact .fatal (hfatal.mpr hnone) (by simp [hinvalid, hnone]) hrun
      · rw [if_neg hfreed] at hrun
        have hsome := stream_of_there hp hfreed
        by_cases htype : (w.streams p).type ≠ some .NAMED_PIPE
        · rw [if_pos htype] at hrun
          exact .invalid (hinvalid.mpr ⟨_, hsome, htype⟩) (by simp [hfatal, hsome]) hrun
        · rw [if_neg htype] at hrun
          have htype' := not_not.mp htype
          refine .pipe (by simp [hfatal, hsome]) (by simp [hinvalid, hsome, htype']) p ?_ ⟨hp, ?_⟩
            htype' hrun
          · simp [pipe_of, h, hp, UV_CREATE_PIPE]
          · rw [← kind_and c.flags UV_CREATE_PIPE (by decide), h]
            decide

/-! ## The two loops of uv_spawn -/

/-- There is a fatal container with no invalid one before it. -/
def FatalFirst (w : World) (cs : List uv_stdio_container_t) : Prop :=
  ∃ l c r, cs = l ++ c :: r ∧ Fatal w c ∧ ∀ b ∈ l, ¬Invalid w b

/-- A pipe can be made whenever one is wanted. -/
def Os.willing (os : Os w) : Prop := ∀ i, ∃ fd, os.socketpair i = .ok fd

/-- The ends of pipes that the first loop makes. -/
inductive Piped (os : Os w) : Nat → List uv_stdio_container_t → List (Option Nat) → Prop where
  | nil (k : Nat) : Piped os k [] []
  | plain {k : Nat} {c : uv_stdio_container_t} {cs : List uv_stdio_container_t}
      {pipes : List (Option Nat)} (hp : pipe_of c = none) (hrest : Piped os (k + 1) cs pipes) :
      Piped os k (c :: cs) (none :: pipes)
  | pipe {k fd p : Nat} {c : uv_stdio_container_t} {cs : List uv_stdio_container_t}
      {pipes : List (Option Nat)} (hp : pipe_of c = some p)
      (hcreate : c.data = .stream (some p) ∧ c.flags &&& UV_CREATE_PIPE ≠ 0)
      (htype : (w.streams p).type = some .NAMED_PIPE) (hfd : os.socketpair k = .ok fd)
      (hrest : Piped os (k + 1) cs pipes) : Piped os k (c :: cs) (some fd :: pipes)

theorem FatalFirst.cons {c : uv_stdio_container_t} {cs : List uv_stdio_container_t}
    (hc : ¬Invalid w c) (h : FatalFirst w cs) : FatalFirst w (c :: cs) := by
  obtain ⟨l, d, r, rfl, hd, hl⟩ := h
  refine ⟨c :: l, d, r, rfl, hd, fun b hb => ?_⟩
  rcases List.mem_cons.mp hb with rfl | hb
  · exact hc
  · exact hl b hb

theorem FatalFirst.tail {c : uv_stdio_container_t} {cs : List uv_stdio_container_t}
    (hc : ¬Fatal w c) (h : FatalFirst w (c :: cs)) : ¬Invalid w c ∧ FatalFirst w cs := by
  obtain ⟨l, d, r, heq, hd, hl⟩ := h
  cases l with
  | nil =>
    injection heq with hcd
    rw [hcd] at hc
    exact absurd hd hc
  | cons b l =>
    rw [List.cons_append, List.cons.injEq] at heq
    obtain ⟨rfl, rfl⟩ := heq
    exact ⟨hl c List.mem_cons_self, l, d, r, rfl, hd, fun b hb => hl b (List.mem_cons_of_mem _ hb)⟩

/-- What the first loop comes to. -/
inductive InitLoop (os : Os w) (k : Nat) (cs : List uv_stdio_container_t) : Prop where
  | done (pipes : List (Option Nat)) (hrun : init_loop os k cs = .ok pipes)
      (hall : ∀ c ∈ cs, ¬Fatal w c ∧ ¬Invalid w c) (hpiped : Piped os k cs pipes)
  | aborted (hrun : init_loop os k cs = .error .aborted) (hfirst : FatalFirst w cs)
  | err (e : Errno) (hrun : init_loop os k cs = .error (.err e))
      (h : ¬os.willing ∨ (∃ c ∈ cs, Invalid w c) ∧ ¬FatalFirst w cs)

theorem init_loop_error {os : Os w} {k : Nat} {c : uv_stdio_container_t}
    {cs : List uv_stdio_container_t} {e : Halt}
    (h : uv__process_init_stdio os k c = .error e) : init_loop os k (c :: cs) = .error e := by
  unfold init_loop
  rw [h]
  rfl

/-- The first container is past, and the rest decides. -/
theorem InitLoop.cons {os : Os w} {k : Nat} {c : uv_stdio_container_t}
    {cs : List uv_stdio_container_t} {x : Option Nat} (hf : ¬Fatal w c) (hi : ¬Invalid w c)
    (hrun : uv__process_init_stdio os k c = .ok x)
    (hpiped : ∀ pipes, Piped os (k + 1) cs pipes → Piped os k (c :: cs) (x :: pipes))
    (h : InitLoop os (k + 1) cs) : InitLoop os k (c :: cs) := by
  have hloop : init_loop os k (c :: cs) = (init_loop os (k + 1) cs).map (x :: ·) := by
    conv_lhs => unfold init_loop
    rw [hrun]
    cases init_loop os (k + 1) cs <;> rfl
  cases h with
  | done pipes hrest hall hpipes =>
    refine .done (x :: pipes) (by rw [hloop, hrest]; rfl) (fun d hd => ?_) (hpiped pipes hpipes)
    rcases List.mem_cons.mp hd with rfl | hd
    · exact ⟨hf, hi⟩
    · exact hall d hd
  | aborted hrest hfirst => exact .aborted (by rw [hloop, hrest]; rfl) (hfirst.cons hi)
  | err e hrest h =>
    refine .err e (by rw [hloop, hrest]; rfl) (h.imp_right ?_)
    rintro ⟨⟨d, hd, hinvalid⟩, hfirst⟩
    exact ⟨⟨d, List.mem_cons_of_mem _ hd, hinvalid⟩, fun h => hfirst (h.tail hf).2⟩

theorem init_loop.spec (os : Os w) (k : Nat) {cs : List uv_stdio_container_t}
    (hcs : ∀ c ∈ cs, Shaped c) : InitLoop os k cs := by
  induction cs generalizing k with
  | nil => exact .done [] rfl (fun _ h => nomatch h) (.nil k)
  | cons c cs ih =>
    have hrest := ih (k + 1) fun d hd => hcs d (List.mem_cons_of_mem _ hd)
    cases init_stdio os k (hcs c List.mem_cons_self) with
    | fatal h hi hrun =>
      exact .aborted (init_loop_error hrun) ⟨[], c, cs, rfl, h, (fun _ h => nomatch h)⟩
    | invalid h hf hrun =>
      refine .err EINVAL (init_loop_error hrun)
        (.inr ⟨⟨c, List.mem_cons_self, h⟩, fun hfirst => ?_⟩)
      exact (hfirst.tail hf).1 h
    | plain hf hi hp hrun => exact hrest.cons hf hi hrun fun pipes hpipes => .plain hp hpipes
    | pipe hf hi p hp hcreate htype hrun =>
      cases hfd : os.socketpair k with
      | ok fd =>
        rw [hfd] at hrun
        exact hrest.cons hf hi hrun fun pipes hpipes => .pipe hp hcreate htype hfd hpipes
      | error e =>
        rw [hfd] at hrun
        refine .err e (init_loop_error hrun) (.inl fun hwilling => ?_)
        obtain ⟨fd, hok⟩ := hwilling k
        rw [hfd] at hok
        cases hok

/-- The streams after the pipes of `taken` have got their ends. -/
structure Tracks (os : Os w) (streams : Nat → uv_stream_t) (taken : List Nat) (k : Nat) :
    Prop where
  type : ∀ p, (streams p).type = (w.streams p).type
  kept : ∀ p, p ∉ taken → (streams p).fd = (w.streams p).fd
  taken : ∀ p ∈ taken, ∃ j < k, ∃ fd, os.socketpair j = .ok fd ∧ (streams p).fd = fd

theorem Tracks.next {os : Os w} {streams : Nat → uv_stream_t} {taken : List Nat} {k : Nat}
    (h : Tracks os streams taken k) : Tracks os streams taken (k + 1) := by
  refine ⟨h.type, h.kept, fun p hp => ?_⟩
  obtain ⟨j, hj, hfd⟩ := h.taken p hp
  exact ⟨j, by omega, hfd⟩

/-- A pipe gets its end where it has no descriptor. -/
theorem uv__stream_open.spec {os : Os w} {streams : Nat → uv_stream_t} {taken : List Nat}
    {k p fd : Nat} (h : Tracks os streams taken k) (hfd : os.socketpair k = .ok fd)
    (htype : (w.streams p).type = some .NAMED_PIPE) :
    (p ∉ taken ∧ (w.streams p).fd = -1 ∧ ∃ streams', uv__stream_open streams p fd = .ok streams' ∧
      Tracks os streams' (p :: taken) (k + 1)) ∨
    ((p ∈ taken ∨ (w.streams p).fd ≠ -1) ∧
      uv__stream_open streams p fd = .error (.err EBUSY)) := by
  by_cases hp : p ∈ taken
  · obtain ⟨j, hj, fd', hfd', heq⟩ := h.taken p hp
    refine .inr ⟨.inl hp, if_neg ?_⟩
    rintro (hone | hsame)
    · omega
    · rw [heq] at hsame
      have hsame' : fd' = fd := by exact_mod_cast hsame
      rw [hsame'] at hfd'
      have := os.distinct j k fd hfd' hfd
      omega
  · have hkept := h.kept p hp
    by_cases hone : (w.streams p).fd = -1
    · left
      refine ⟨hp, hone, ?_⟩
      have hstep : ∀ s : uv_stream_t, s.type = (w.streams p).type → s.fd = fd →
          Tracks os (Function.update streams p s) (p :: taken) (k + 1) := by
        intro s hstype hsfd
        constructor
        · intro q
          by_cases hq : q = p
          · rw [hq, Function.update_self]
            exact hstype
          · rw [Function.update_of_ne hq]
            exact h.type q
        · intro q hq
          rw [List.mem_cons, not_or] at hq
          rw [Function.update_of_ne hq.1]
          exact h.kept q hq.2
        · intro q hq
          by_cases hqp : q = p
          · rw [hqp, Function.update_self]
            exact ⟨k, by omega, fd, hfd, hsfd⟩
          · rw [Function.update_of_ne hqp]
            exact h.next.taken q ((List.mem_cons.mp hq).resolve_left hqp)
      have htype' := (h.type p).trans htype
      unfold uv__stream_open
      rw [if_pos (.inl (hkept.trans hone))]
      cases hs : streams p with
      | zeroed =>
        rw [hs] at htype'
        cases htype'
      | freed =>
        rw [hs] at htype'
        cases htype'
      | opened type old =>
        refine ⟨_, rfl, hstep _ ?_ rfl⟩
        rw [← h.type p, hs]
        rfl
      | closing type old =>
        refine ⟨_, rfl, hstep _ ?_ rfl⟩
        rw [← h.type p, hs]
        rfl
    · refine .inr ⟨.inr hone, if_neg ?_⟩
      rintro (h' | h')
      · exact hone (hkept.symm.trans h')
      · exact os.fresh k fd p hfd (hkept.symm.trans h')

theorem open_loop.spec {os : Os w} {k : Nat} {cs : List uv_stdio_container_t}
    {pipes : List (Option Nat)} (hpiped : Piped os k cs pipes) {streams : Nat → uv_stream_t}
    {taken : List Nat} (h : Tracks os streams taken k) :
    (¬Busy w taken cs ∧ ∃ streams', open_loop streams (cs.zip pipes) = .ok streams') ∨
      (Busy w taken cs ∧ open_loop streams (cs.zip pipes) = .error (.err EBUSY)) := by
  induction hpiped generalizing streams taken with
  | nil k => exact .inl ⟨id, streams, rfl⟩
  | plain hp hrest ih =>
    have hbusy : ∀ cs c, pipe_of c = none → (Busy w taken (c :: cs) ↔ Busy w taken cs) := by
      intro cs c hc
      rw [Busy, hc]
    rw [hbusy _ _ hp]
    exact ih h.next
  | @pipe k fd p c cs pipes hp hcreate htype hfd hrest ih =>
    have hbusy : Busy w taken (c :: cs) ↔
        p ∈ taken ∨ (w.streams p).fd ≠ -1 ∨ Busy w (p :: taken) cs := by
      rw [Busy, hp]
    have hopen : open_loop streams ((c :: cs).zip (some fd :: pipes)) =
        (uv__stream_open streams p fd).bind fun streams => open_loop streams (cs.zip pipes) := by
      rw [List.zip_cons_cons]
      conv_lhs => unfold open_loop uv__process_open_stream
      rw [hcreate.1]
      dsimp only
      rw [if_neg hcreate.2]
      rfl
    rw [hopen, hbusy]
    rcases uv__stream_open.spec h hfd htype with ⟨hnot, hone, streams', hrun, htracks⟩
      | ⟨hyes, hrun⟩
    · rw [hrun]
      rcases ih htracks with ⟨hfree, hok⟩ | ⟨hb, herr⟩
      · left
        refine ⟨?_, hok⟩
        rintro (h' | h' | h')
        · exact hnot h'
        · exact h' hone
        · exact hfree h'
      · exact .inr ⟨.inr (.inr hb), herr⟩
    · rw [hrun]
      right
      refine ⟨?_, rfl⟩
      rcases hyes with h' | h'
      · exact .inl h'
      · exact .inr (.inl h')

/-! ## Which options uv_spawn can take -/

/-- No assertion fails, and an error is returned unless there is what libuv needs. -/
def Acceptable (w : World) (flags : BitVec 32) (cs : List uv_stdio_container_t) : Prop :=
  only flags UV_PROCESS_FLAGS = true ∧ ¬FatalFirst w cs ∧
    ((∃ c ∈ cs, Invalid w c) ∨ Busy w [] cs ∨ ∀ c ∈ cs, Fit w c)

/-- A system that gives everything, with descriptors above those of the streams. -/
def Os.generous (w : World) : Os w where
  pipes_alloc := true
  socketpair i := .ok (w.limit + i)
  make_pipe := none
  fork := none
  exec := none
  fresh := by
    intro i fd p hfd heq
    have hlt := w.bounded p
    rw [← Except.ok.inj hfd] at heq
    omega
  distinct := by
    intro i j fd hi hj
    have heq : w.limit + i = w.limit + j := (Except.ok.inj hi).trans (Except.ok.inj hj).symm
    omega

theorem tracks_start (os : Os w) : Tracks os w.streams [] 0 :=
  ⟨fun _ => rfl, fun _ _ => rfl, (fun _ h => nomatch h)⟩

theorem uv_spawn_eq (os : Os w) {o : uv_process_options_t}
    (hflags : only o.flags UV_PROCESS_FLAGS = true) (hpipes : os.pipes_alloc = true) :
    uv_spawn os o = (do
      let pipes ← init_loop os 0 (o.stdio.getD [])
      failed os.make_pipe
      failed os.fork
      let _ ← open_loop w.streams ((o.stdio.getD []).zip pipes)
      return (os.exec.map Errno.n).getD 0) := by
  unfold uv_spawn
  rw [if_pos hflags, if_pos hpipes]

theorem generous_spec {o : uv_process_options_t} (hcs : ∀ c ∈ o.stdio.getD [], Shaped c)
    (h : ∃ n, returned (uv_spawn (Os.generous w) o) = some n ∧ (n < 0 ∨ Preconditions w o)) :
    Acceptable w o.flags (o.stdio.getD []) := by
  obtain ⟨n, hn, hdone⟩ := h
  by_cases hflags : only o.flags UV_PROCESS_FLAGS = true
  · have heq := uv_spawn_eq (Os.generous w) hflags rfl
    refine ⟨hflags, ?_, ?_⟩
    · intro hfirst
      cases init_loop.spec (Os.generous w) 0 hcs with
      | done pipes hrun hall hpiped =>
        obtain ⟨l, c, r, hlist, hc, -⟩ := hfirst
        exact (hall c (by rw [hlist]; simp)).1 hc
      | aborted hrun _ =>
        rw [heq, hrun] at hn
        cases hn
      | err e hrun h =>
        rcases h with hwilling | ⟨-, hnot⟩
        · exact hwilling fun i => ⟨_, rfl⟩
        · exact hnot hfirst
    · by_contra hnone
      rw [not_or, not_or] at hnone
      obtain ⟨hinvalid, hbusy, hfit⟩ := hnone
      cases init_loop.spec (Os.generous w) 0 hcs with
      | aborted hrun _ =>
        rw [heq, hrun] at hn
        cases hn
      | err e hrun h =>
        rcases h with hwilling | ⟨hexists, -⟩
        · exact hwilling fun i => ⟨_, rfl⟩
        · exact hinvalid hexists
      | done pipes hrun hall hpiped =>
        rcases open_loop.spec hpiped (tracks_start _) with ⟨-, streams', hopen⟩ | ⟨hb, -⟩
        · have hzero : uv_spawn (Os.generous w) o = .ok 0 := by
            rw [heq, hrun]
            change (open_loop w.streams ((o.stdio.getD []).zip pipes)).bind _ = _
            rw [hopen]
            rfl
          rw [hzero] at hn
          obtain rfl := Option.some.inj hn
          rcases hdone with hneg | hpre
          · exact absurd hneg (by decide)
          · exact hfit hpre.2
        · exact hbusy hb
  · unfold uv_spawn at hn
    rw [if_neg hflags] at hn
    cases hn

theorem returned_err (e : Errno) {o : uv_process_options_t} :
    ∃ n, returned (.error (.err e)) = some n ∧ (n < 0 ∨ Preconditions w o) :=
  ⟨e.n, rfl, .inl e.negative⟩

theorem acceptable_spec {o : uv_process_options_t} (hcs : ∀ c ∈ o.stdio.getD [], Shaped c)
    (h : Acceptable w o.flags (o.stdio.getD [])) (os : Os w) :
    ∃ n, returned (uv_spawn os o) = some n ∧ (n < 0 ∨ Preconditions w o) := by
  obtain ⟨hflags, hfirst, hcases⟩ := h
  by_cases hpipes : os.pipes_alloc = true
  · rw [uv_spawn_eq os hflags hpipes]
    cases init_loop.spec os 0 hcs with
    | aborted _ h => exact absurd h hfirst
    | err e hrun _ =>
      rw [hrun]
      exact returned_err e
    | done pipes hrun hall hpiped =>
      rw [hrun]
      change ∃ n, returned ((failed os.make_pipe).bind _) = some n ∧ _
      cases os.make_pipe with
      | some e => exact returned_err e
      | none =>
        change ∃ n, returned ((failed os.fork).bind _) = some n ∧ _
        cases os.fork with
        | some e => exact returned_err e
        | none =>
          change ∃ n, returned ((open_loop w.streams ((o.stdio.getD []).zip pipes)).bind _) =
            some n ∧ _
          rcases open_loop.spec hpiped (tracks_start _) with ⟨hfree, streams', hopen⟩ | ⟨-, hopen⟩
          · rw [hopen]
            refine ⟨_, rfl, .inr ⟨hflags, ?_⟩⟩
            rcases hcases with ⟨c, hc, hinvalid⟩ | hbusy | hfit
            · exact absurd hinvalid (hall c hc).2
            · exact absurd hbusy hfree
            · exact hfit
          · rw [hopen]
            exact returned_err EBUSY
  · unfold uv_spawn
    rw [if_pos hflags, if_neg hpipes]
    exact returned_err ENOMEM

end pyuv.spawn
