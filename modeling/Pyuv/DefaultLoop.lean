-- The loops that a program creates, and the default loop (src/loop.c), over uv_default_loop,
-- uv_loop_init and uv_loop_close of libuv (deps/libuv/src/uv-common.c, unix/loop.c).
-- new_loop initialises whatever loop it is given, and uv_default_loop gives it one that is
-- initialised already.
import Pyuv.Lib.Runs
import Pyuv.PyObjects
import Mathlib.Logic.Function.Basic

set_option linter.style.nameCheck false

namespace pyuv.loop_objects

/-! ## The state -/

/-- A uv_loop_t: the one in a Loop object, or default_loop_struct of libuv. -/
inductive UvLoop where
  | loop_struct (k : Nat)
  | default_loop_struct
deriving DecidableEq, Repr

/-- A call of uv_loop_init, with or without an error, or of uv_loop_close. -/
inductive LoopCall where
  | init (ok : Bool)
  | close
deriving DecidableEq, Repr

/-- A Loop object: whether it still exists, the structure of libuv in it, and its references. -/
structure LoopObj where
  alive : Bool
  uv_loop : Option UvLoop
  is_default : Bool
  -- the references that the program has
  refs : Nat
deriving DecidableEq, Repr

/-- The Loop objects, the static variables of loop.c and of libuv, and what was done to each
structure. -/
structure St where
  obj : Nat → LoopObj
  -- the objects are numbered as they are allocated
  next : Nat
  -- the static variable of loop.c, and whether a tp_init that it called is running
  default_loop : Option Nat
  initing : Bool
  -- default_loop_ptr of libuv is set
  default_loop_ptr : Bool
  calls : UvLoop → List LoopCall
  -- what the calls of default_loop() that succeeded have returned
  returned : List Nat
  -- uv_loop_init was called with NULL
  crashed : Bool

/-- An object that was not allocated yet. -/
def unborn : LoopObj := ⟨false, none, false, 0⟩

/-- The state in which the module is imported. -/
def start : St where
  obj _ := unborn
  next := 0
  default_loop := none
  initing := false
  default_loop_ptr := false
  calls _ := []
  returned := []
  crashed := false

/-- One object is written over. -/
def St.set (s : St) (k : Nat) (o : LoopObj) : St := { s with obj := Function.update s.obj k o }

/-! ## libuv -/

/-- A call of libuv on a structure goes on record. -/
def St.called (s : St) (u : UvLoop) (c : LoopCall) : St :=
  { s with calls := Function.update s.calls u (s.calls u ++ [c]) }

/-- `os` is the error of the system, or 0. -/
def uv_loop_init (s : St) (u : UvLoop) (os : Int) : Int × St :=
  (os, s.called u (.init (decide (os = 0))))

/-- The one default loop of libuv, which is set up when it is first asked for. -/
def uv_default_loop (s : St) (os : Int) : Option UvLoop × St :=
  if s.default_loop_ptr then (some .default_loop_struct, s)
  else
    let (err, s) := uv_loop_init s .default_loop_struct os
    if err ≠ 0 then (none, s) else (some .default_loop_struct, { s with default_loop_ptr := true })

/-- The loop has no handles and no requests: they would keep its object alive. -/
def uv_loop_close (s : St) (u : UvLoop) : St :=
  let s := s.called u .close
  if u = .default_loop_struct then { s with default_loop_ptr := false } else s

/-! ## loop.c -/

/-- The structure is closed, and the object is gone. -/
def Loop_tp_dealloc (s : St) (k : Nat) : St :=
  let s := match (s.obj k).uv_loop with
    | some u => uv_loop_close s u
    | none => s
  s.set k { s.obj k with alive := false }

/-- What new_loop leads to: an exception, a crash or an object. -/
inductive New where
  | raise (e : PyErr)
  | crash
  | obj (k : Nat)
deriving DecidableEq, Repr

/-- `bad_args` is whether there are arguments, `alloc` whether there is memory. `os_default`
and `os` are the errors of uv_loop_init in uv_default_loop and in new_loop. -/
def new_loop (s : St) (is_default bad_args alloc : Bool) (os_default os : Int) : New × St :=
  if bad_args then
    (.raise (.text .TypeError "Loop initialization takes no parameters"), s)
  else if !alloc then (.raise (.cpython .MemoryError), s)
  else
    let k := s.next
    let s := { s.set k { unborn with alive := true } with next := k + 1 }
    let (uv_loop, s) := if is_default then uv_default_loop s os_default
      else (some (.loop_struct k), s)
    match uv_loop with
    | none => (.crash, { s with crashed := true })
    | some u =>
      let (err, s) := uv_loop_init s u os
      if err < 0 then
        (.raise (.text .RuntimeError "Error initializing loop"), Loop_tp_dealloc s k)
      else (.obj k, s.set k { s.obj k with uv_loop := some u, is_default := is_default })

/-- A reference for the program. -/
def Py_INCREF (s : St) (k : Nat) : St := s.set k { s.obj k with refs := (s.obj k).refs + 1 }

/-- The last reference frees the object, unless the static variable has one. -/
def Py_DECREF (s : St) (k : Nat) : St :=
  let s := s.set k { s.obj k with refs := (s.obj k).refs - 1 }
  if (s.obj k).refs = 0 ∧ s.default_loop ≠ some k then Loop_tp_dealloc s k else s

/-- An `__init__` that fails comes after it, and drops the reference. -/
def Loop_tp_new (s : St) (bad_args alloc : Bool) (os : Int) : St :=
  match new_loop s false bad_args alloc 0 os with
  | (.obj k, s) => Py_INCREF s k
  | (_, s) => s

/-- A new reference to the object in `default_loop`. -/
def return_default_loop (s : St) : St :=
  match s.default_loop with
  | none => s
  | some k => { Py_INCREF s k with returned := s.returned ++ [k] }

/-- `subclass` is whether the type has a tp_init of its own. The call goes on when that
returns. -/
def Loop_func_default_loop (s : St) (subclass alloc : Bool) (os_default os : Int) : St :=
  if s.default_loop ≠ none then return_default_loop s
  else
    match new_loop s true false alloc os_default os with
    | (.obj k, s) =>
      let s := { s with default_loop := some k }
      if subclass then { s with initing := true } else return_default_loop s
    | (_, s) => s

/-- The rest of Loop_func_default_loop after tp_init. -/
def tp_init_returns (s : St) (ok : Bool) : St :=
  let s := { s with initing := false }
  if ok then return_default_loop s
  else
    match s.default_loop with
    | none => s
    | some k =>
      let s := { s with default_loop := none }
      if (s.obj k).refs = 0 then Loop_tp_dealloc s k else s

/-! ## The steps -/

/-- What the program does: it makes a loop, asks for the default one, or takes or drops a
reference. -/
inductive Act where
  | Loop (bad_args alloc : Bool) (os : Int)
  | default_loop (subclass alloc : Bool) (os_default os : Int)
  | tp_init_returns (ok : Bool)
  -- the program takes or drops a reference
  | take (k : Nat)
  | drop (k : Nat)

/-- One act, where it is possible: the objects it speaks of exist. -/
def step (s : St) (a : Act) : Option St :=
  if s.crashed then none
  else
    match a with
    | .Loop bad_args alloc os => if os ≤ 0 then some (Loop_tp_new s bad_args alloc os) else none
    | .default_loop subclass alloc os_default os =>
      if os_default ≤ 0 ∧ os ≤ 0 then some (Loop_func_default_loop s subclass alloc os_default os)
      else none
    | .tp_init_returns ok => if s.initing then some (tp_init_returns s ok) else none
    | .take k =>
      -- tp_init has the default loop as `self`
      if 0 < (s.obj k).refs ∨ s.initing = true ∧ s.default_loop = some k then some (Py_INCREF s k)
      else none
    | .drop k => if 0 < (s.obj k).refs then some (Py_DECREF s k) else none

/-! ## The contract -/

/-- Whether a loop is initialised after a call, none after one that must not be. -/
def after (initialised : Option Bool) : LoopCall → Option Bool
  | .init ok => if initialised = some false then some ok else none
  | .close => if initialised = some true then some false else none

/-- Whether a loop is initialised after its calls, none where these do not alternate. -/
def initialised (calls : List LoopCall) : Option Bool := calls.foldl after (some false)

/-- What is promised of the loops and their structures. -/
structure Contract (s : St) : Prop where
  -- initialised once between two closes, and closed once for each time
  alternate : ∀ u, initialised (s.calls u) ≠ none
  -- with its one Loop object
  owned : ∀ u, initialised (s.calls u) = some true ↔
    ∃ k, (s.obj k).alive = true ∧ (s.obj k).uv_loop = some u
  one_owner : ∀ u k j, (s.obj k).alive = true → (s.obj j).alive = true →
    (s.obj k).uv_loop = some u → (s.obj j).uv_loop = some u → k = j
  same : ∀ k ∈ s.returned, s.default_loop = some k ∧ (s.obj k).alive = true
  -- the next default_loop() has a loop that is not initialised to begin with
  fresh : s.default_loop = none → s.default_loop_ptr = false ∧
    initialised (s.calls .default_loop_struct) = some false
  running : s.crashed = false

/-- default_loop() creates the object. -/
def creates_default (s : St) : Act → Prop
  | .default_loop _ alloc _ _ => s.default_loop = none ∧ alloc = true
  | _ => False

/-! ## The loops of the objects -/

/-- A Loop that is alive and has its own loop has initialised it, and nothing else has. -/
structure Inv (s : St) : Prop where
  unborn : ∀ k, s.next ≤ k → s.obj k = unborn ∧ s.calls (.loop_struct k) = []
  embedded : ∀ k, initialised (s.calls (.loop_struct k)) =
    some (decide ((s.obj k).alive = true ∧ (s.obj k).uv_loop = some (.loop_struct k)))
  own : ∀ k j, (s.obj k).uv_loop = some (.loop_struct j) → j = k
  held : ∀ k, 0 < (s.obj k).refs → (s.obj k).alive = true
  kept : ∀ k, s.default_loop = some k → (s.obj k).alive = true
  initing : s.initing = true → s.default_loop ≠ none

/-- Before the first loop. -/
theorem start_inv : Inv start := by
  refine ⟨fun k _ => ⟨rfl, rfl⟩, fun k => rfl, ?_, ?_, ?_, ?_⟩
  · rintro k j ⟨⟩
  · rintro k ⟨⟩
  · rintro k ⟨⟩
  · rintro ⟨⟩

section

variable {s t : St} {k : Nat} {u : UvLoop} {o : LoopObj}

/-- What was stored is read. -/
@[simp]
theorem set_obj_self (s : St) (k : Nat) (o : LoopObj) : (s.set k o).obj k = o :=
  Function.update_self ..

@[simp]
theorem set_calls (s : St) (k : Nat) (o : LoopObj) : (s.set k o).calls = s.calls := rfl

theorem set_obj_of_ne {j : Nat} (hjk : j ≠ k) : (s.set k o).obj j = s.obj j :=
  Function.update_of_ne hjk ..

/-- A call goes to the list of its struct. -/
@[simp]
theorem called_calls_self (s : St) (u : UvLoop) (c : LoopCall) :
    (s.called u c).calls u = s.calls u ++ [c] := Function.update_self ..

theorem called_calls_of_ne {v : UvLoop} {c : LoopCall} (hvu : v ≠ u) :
    (s.called u c).calls v = s.calls v := Function.update_of_ne hvu ..

theorem called_default_calls (s : St) (c : LoopCall) (j : Nat) :
    (s.called .default_loop_struct c).calls (.loop_struct j) = s.calls (.loop_struct j) :=
  called_calls_of_ne (by simp)

/-- What a call finds is what the calls before it have left. -/
theorem initialised_snoc (calls : List LoopCall) (c : LoopCall) :
    initialised (calls ++ [c]) = after (initialised calls) c := by
  simp [initialised]

/-- No object is alive that was not made. -/
theorem Inv.born (hi : Inv s) (halive : (s.obj k).alive = true) : k < s.next := by
  by_contra hnot
  rw [(hi.unborn k (by omega)).1] at halive
  cases halive

/-- What has to be said of the one object that changes, and of its own loop. -/
theorem Inv.change (hi : Inv s) (hborn : k < s.next) (hobj : ∀ j, j ≠ k → t.obj j = s.obj j)
    (hcalls : ∀ j, j ≠ k → t.calls (.loop_struct j) = s.calls (.loop_struct j))
    (hsame : t.next = s.next ∧ t.default_loop = s.default_loop ∧ t.initing = s.initing)
    (hembedded : initialised (t.calls (.loop_struct k)) =
      some (decide ((t.obj k).alive = true ∧ (t.obj k).uv_loop = some (.loop_struct k))))
    (hown : ∀ j, (t.obj k).uv_loop = some (.loop_struct j) → j = k)
    (hheld : 0 < (t.obj k).refs ∨ s.default_loop = some k → (t.obj k).alive = true) : Inv t := by
  obtain ⟨hnext, hstatic, hiniting⟩ := hsame
  refine ⟨fun j hj => ?_, fun j => ?_, fun j i => ?_, fun j hj => ?_, fun j hj => ?_, ?_⟩
  · rw [hnext] at hj
    rw [hobj j (by omega), hcalls j (by omega)]
    exact hi.unborn j hj
  · by_cases hjk : j = k
    · rw [hjk]
      exact hembedded
    · rw [hobj j hjk, hcalls j hjk]
      exact hi.embedded j
  · by_cases hjk : j = k
    · rw [hjk]
      exact hown i
    · rw [hobj j hjk]
      exact hi.own j i
  · by_cases hjk : j = k
    · rw [hjk] at hj ⊢
      exact hheld (Or.inl hj)
    · rw [hobj j hjk] at hj ⊢
      exact hi.held j hj
  · rw [hstatic] at hj
    by_cases hjk : j = k
    · rw [hjk] at hj ⊢
      exact hheld (Or.inr hj)
    · rw [hobj j hjk]
      exact hi.kept j hj
  · rw [hiniting, hstatic]
    exact hi.initing

/-- References are not looked at. -/
theorem Inv.set_refs (hi : Inv s) (halive : (s.obj k).alive = true) (refs : Nat) :
    Inv (s.set k { s.obj k with refs := refs }) := by
  refine hi.change (hi.born halive) (fun j => set_obj_of_ne) (fun j _ => rfl) ⟨rfl, rfl, rfl⟩
    ?_ ?_ ?_
  · rw [set_obj_self]
    exact hi.embedded k
  · rw [set_obj_self]
    exact hi.own k
  · rw [set_obj_self]
    exact fun _ => halive

/-- A call of uv_loop_init or uv_loop_close on the default loop. -/
theorem Inv.called_default (hi : Inv s) (c : LoopCall) :
    Inv (s.called .default_loop_struct c) := by
  have hcalls := called_default_calls s c
  refine ⟨fun j hj => ?_, fun j => ?_, hi.own, hi.held, hi.kept, hi.initing⟩
  · rw [hcalls]
    exact hi.unborn j hj
  · rw [hcalls]
    exact hi.embedded j

theorem Inv.default_loop_ptr (hi : Inv s) (b : Bool) : Inv { s with default_loop_ptr := b } :=
  ⟨hi.unborn, hi.embedded, hi.own, hi.held, hi.kept, hi.initing⟩

/-- An object that is freed closes the loop that it has initialised. -/
theorem dealloc_inv (hi : Inv s) (halive : (s.obj k).alive = true) (hrefs : (s.obj k).refs = 0)
    (hdefault : s.default_loop ≠ some k) : Inv (Loop_tp_dealloc s k) := by
  have hembedded := hi.embedded k
  have hheld : 0 < ({ s.obj k with alive := false } : LoopObj).refs ∨ s.default_loop = some k →
      ({ s.obj k with alive := false } : LoopObj).alive = true := by
    rintro (hpos | hkept)
    · exact absurd hpos (by dsimp only; omega)
    · exact absurd hkept hdefault
  unfold Loop_tp_dealloc
  split
  · rename_i u hu
    rw [hu] at hembedded
    unfold uv_loop_close
    cases u with
    | default_loop_struct =>
      rw [if_pos rfl]
      refine hi.change (hi.born halive) (fun j => set_obj_of_ne)
        (fun j _ => called_default_calls s .close j) ⟨rfl, rfl, rfl⟩ ?_ ?_ ?_ <;> rw [set_obj_self]
      · exact ((congrArg initialised (called_default_calls s .close k)).trans hembedded).trans
          (by simp)
      · exact hi.own k
      · exact hheld
    | loop_struct j =>
      obtain rfl := hi.own k j hu
      rw [if_neg (by simp)]
      refine hi.change (hi.born halive) (fun i => set_obj_of_ne)
        (fun i hij => called_calls_of_ne (by simpa using hij)) ⟨rfl, rfl, rfl⟩ ?_ ?_ ?_ <;>
        rw [set_obj_self]
      · have hclosed : initialised ((s.called (.loop_struct j) .close).calls (.loop_struct j)) =
            some false := by
          rw [called_calls_self, initialised_snoc, hembedded, halive]
          simp [after]
        exact hclosed.trans (by simp)
      · exact hi.own j
      · exact hheld
  · rename_i hnone
    rw [hnone] at hembedded
    refine hi.change (hi.born halive) (fun j => set_obj_of_ne) (fun j _ => rfl) ⟨rfl, rfl, rfl⟩
      ?_ ?_ ?_ <;> rw [set_obj_self]
    · exact hembedded.trans (by simp)
    · exact hi.own k
    · exact hheld

/-- A new object, before it has a loop. -/
def St.alloc (s : St) : St :=
  { s.set s.next { unborn with alive := true } with next := s.next + 1 }

theorem alloc_inv (hi : Inv s) : Inv s.alloc := by
  have hnew := hi.unborn s.next (Nat.le_refl _)
  have hself : s.alloc.obj s.next = { unborn with alive := true } := Function.update_self ..
  have hne : ∀ j, j ≠ s.next → s.alloc.obj j = s.obj j := fun j hj => Function.update_of_ne hj ..
  refine ⟨fun j hj => ?_, fun j => ?_, fun j i => ?_, fun j hj => ?_, fun j hj => ?_, hi.initing⟩
  · have hj' : s.next + 1 ≤ j := hj
    rw [hne j (by omega)]
    exact hi.unborn j (by omega)
  · by_cases hjk : j = s.next
    · subst hjk
      rw [hself]
      exact (congrArg initialised hnew.2).trans (by simp [unborn, initialised])
    · rw [hne j hjk]
      exact hi.embedded j
  · by_cases hjk : j = s.next
    · subst hjk
      rw [hself]
      rintro ⟨⟩
    · rw [hne j hjk]
      exact hi.own j i
  · by_cases hjk : j = s.next
    · subst hjk
      rw [hself]
    · rw [hne j hjk] at hj ⊢
      exact hi.held j hj
  · have halive := hi.kept j hj
    have hjk : j ≠ s.next := by
      rintro rfl
      rw [hnew.1] at halive
      cases halive
    rw [hne j hjk]
    exact halive

/-- What new_loop has once the memory is there. -/
structure Fresh (s : St) (k : Nat) : Prop where
  inv : Inv s
  obj : s.obj k = { unborn with alive := true }
  not_default : s.default_loop ≠ some k

/-- A new object is on no list. -/
theorem alloc_fresh (hi : Inv s) : Fresh s.alloc s.next := by
  refine ⟨alloc_inv hi, Function.update_self .., fun hdefault => ?_⟩
  have halive := hi.kept s.next hdefault
  rw [(hi.unborn s.next (Nat.le_refl _)).1] at halive
  cases halive

theorem Fresh.called_default (hf : Fresh s k) (c : LoopCall) :
    Fresh (s.called .default_loop_struct c) k :=
  ⟨hf.inv.called_default c, hf.obj, hf.not_default⟩

theorem Fresh.default_loop_ptr (hf : Fresh s k) (b : Bool) :
    Fresh { s with default_loop_ptr := b } k :=
  ⟨hf.inv.default_loop_ptr b, hf.obj, hf.not_default⟩

/-- Nobody has initialised the struct inside of a new object. -/
theorem Fresh.embedded (hf : Fresh s k) : initialised (s.calls (.loop_struct k)) = some false := by
  rw [hf.inv.embedded k, hf.obj]
  simp [unborn]

/-- An error leaves the own loop of the object as it was. -/
theorem Fresh.refused (hf : Fresh s k) : Fresh (s.called (.loop_struct k) (.init false)) k := by
  have halive : (s.obj k).alive = true := by rw [hf.obj]
  refine ⟨?_, hf.obj, hf.not_default⟩
  refine hf.inv.change (hf.inv.born halive) (fun j _ => rfl)
    (fun j hjk => called_calls_of_ne (by simpa using hjk)) ⟨rfl, rfl, rfl⟩ ?_ (hf.inv.own k)
    fun _ => halive
  rw [called_calls_self, initialised_snoc, hf.embedded]
  have hnone : (s.obj k).uv_loop = none := by rw [hf.obj]; rfl
  simp [after, St.called, hnone]

/-- An object that failed its initialisation can be freed. -/
theorem Fresh.freed (hf : Fresh s k) : Inv (Loop_tp_dealloc s k) :=
  dealloc_inv hf.inv (by rw [hf.obj]) (by rw [hf.obj]; rfl) hf.not_default

theorem Fresh.own_loop (hf : Fresh s k) (is_default : Bool) :
    Inv ((s.called (.loop_struct k) (.init true)).set k
      { s.obj k with uv_loop := some (.loop_struct k), is_default := is_default }) := by
  have halive : (s.obj k).alive = true := by rw [hf.obj]
  refine hf.inv.change (hf.inv.born halive) (fun j => set_obj_of_ne)
    (fun j hjk => called_calls_of_ne (by simpa using hjk)) ⟨rfl, rfl, rfl⟩ ?_ ?_ ?_ <;>
    rw [set_obj_self]
  · have hopen : initialised ((s.called (.loop_struct k) (.init true)).calls (.loop_struct k)) =
        some true := by
      rw [called_calls_self, initialised_snoc, hf.embedded]
      rfl
    exact hopen.trans (by simp [halive])
  · rintro j ⟨⟩
    rfl
  · exact fun _ => halive

theorem Fresh.default_loop (hf : Fresh s k) (is_default : Bool) :
    Inv (s.set k
      { s.obj k with uv_loop := some .default_loop_struct, is_default := is_default }) := by
  have halive : (s.obj k).alive = true := by rw [hf.obj]
  refine hf.inv.change (hf.inv.born halive) (fun j => set_obj_of_ne) (fun j _ => rfl)
    ⟨rfl, rfl, rfl⟩ ?_ ?_ ?_ <;> rw [set_obj_self]
  · rw [set_calls, hf.embedded]
    simp
  · rintro j ⟨⟩
  · exact fun _ => halive

/-! ## What the functions do -/

variable {os os_default : Int} {is_default : Bool}

theorem init_own (hos : os ≤ 0) (u : UvLoop) :
    uv_loop_init s u os = (os, s.called u (.init (decide (¬os < 0)))) := by
  unfold uv_loop_init
  have hsame : (os = 0) = ¬os < 0 := by
    rw [eq_iff_iff]
    omega
  simp only [hsame]

/-- The loop that new_loop initialises, and what comes of it. -/
def finish (s : St) (k : Nat) (u : UvLoop) (is_default : Bool) (os : Int) : New × St :=
  if os < 0 then
    (.raise (.text .RuntimeError "Error initializing loop"),
      Loop_tp_dealloc (s.called u (.init false)) k)
  else
    (.obj k, (s.called u (.init true)).set k
      { s.obj k with uv_loop := some u, is_default := is_default })

/-- Loop() in one equation: allocate, initialise its own struct, finish. -/
theorem new_loop_own (hos : os ≤ 0) : new_loop s false false true os_default os =
    finish s.alloc s.next (.loop_struct s.next) false os := by
  unfold new_loop finish
  simp only [Bool.false_eq_true, if_false, Bool.not_true, init_own hos]
  split
  · rename_i herr
    simp only [herr, not_true_eq_false, decide_false]
    rfl
  · rename_i herr
    simp only [herr, not_false_eq_true, decide_true]
    rfl

/-- Loop.default_loop(): uv_default_loop first, and uv_loop_init on what it gave. -/
theorem new_loop_default (hos : os ≤ 0) : new_loop s true false true os_default os =
    match uv_default_loop s.alloc os_default with
    | (none, t) => (.crash, { t with crashed := true })
    | (some u, t) => finish t s.next u true os := by
  unfold new_loop
  simp only [Bool.false_eq_true, if_false, Bool.not_true, if_true, init_own hos]
  have halloc : ({ s.set s.next { unborn with alive := true } with next := s.next + 1 } : St) =
      s.alloc := rfl
  rw [halloc]
  generalize uv_default_loop s.alloc os_default = p
  obtain ⟨u, t⟩ := p
  cases u with
  | none => rfl
  | some u =>
    dsimp only
    unfold finish
    split
    · rename_i herr
      simp only [herr, not_true_eq_false, decide_false]
    · rename_i herr
      simp only [herr, not_false_eq_true, decide_true]
      rfl

/-- Nothing that default_loop() looks at has changed. -/
structure Alike (s t : St) : Prop where
  default_loop : t.default_loop = s.default_loop
  initing : t.initing = s.initing
  returned : t.returned = s.returned

theorem close_alike : Alike s (uv_loop_close s u) := by
  unfold uv_loop_close
  split <;> exact ⟨rfl, rfl, rfl⟩

theorem dealloc_alike : Alike s (Loop_tp_dealloc s k) := by
  unfold Loop_tp_dealloc
  split
  · rename_i u hu
    have hclose := close_alike (s := s) (u := u)
    exact ⟨hclose.default_loop, hclose.initing, hclose.returned⟩
  · exact ⟨rfl, rfl, rfl⟩

/-- The end of new_loop, on either struct. -/
theorem finish_spec (is_default : Bool) (os : Int) (hf : Fresh s k)
    (hu : u = .loop_struct k ∨ u = .default_loop_struct) :
    Inv (finish s k u is_default os).2 ∧ Alike s (finish s k u is_default os).2 ∧
    ∀ j, (finish s k u is_default os).1 = .obj j →
      j = k ∧ ((finish s k u is_default os).2.obj j).alive = true := by
  have halive : (s.obj k).alive = true := by rw [hf.obj]
  unfold finish
  split
  · have hdealloc := dealloc_alike (s := s.called u (.init false)) (k := k)
    refine ⟨?_, ⟨hdealloc.default_loop, hdealloc.initing, hdealloc.returned⟩,
      fun j hj => by cases hj⟩
    rcases hu with rfl | rfl
    · exact hf.refused.freed
    · exact (hf.called_default (.init false)).freed
  · refine ⟨?_, ⟨rfl, rfl, rfl⟩, ?_⟩
    · rcases hu with rfl | rfl
      · exact hf.own_loop is_default
      · exact (hf.called_default (.init true)).default_loop is_default
    · rintro j ⟨⟩
      exact ⟨rfl, by rw [set_obj_self]; exact halive⟩

/-- uv_default_loop changes nothing but the default loop. -/
theorem uv_default_loop_spec (os : Int) (hf : Fresh s k) :
    Fresh (uv_default_loop s os).2 k ∧ Alike s (uv_default_loop s os).2 ∧
    ∀ u, (uv_default_loop s os).1 = some u → u = .default_loop_struct := by
  unfold uv_default_loop
  split
  · refine ⟨hf, ⟨rfl, rfl, rfl⟩, ?_⟩
    rintro u ⟨⟩
    rfl
  · unfold uv_loop_init
    dsimp only
    split
    · exact ⟨hf.called_default _, ⟨rfl, rfl, rfl⟩, fun u hu => by cases hu⟩
    · refine ⟨(hf.called_default _).default_loop_ptr true, ⟨rfl, rfl, rfl⟩, ?_⟩
      rintro u ⟨⟩
      rfl

theorem new_loop_spec (is_default bad_args alloc : Bool) (os_default : Int) (hi : Inv s)
    (hos : os ≤ 0) :
    Inv (new_loop s is_default bad_args alloc os_default os).2 ∧
    Alike s (new_loop s is_default bad_args alloc os_default os).2 ∧
    ∀ j, (new_loop s is_default bad_args alloc os_default os).1 = .obj j →
      ((new_loop s is_default bad_args alloc os_default os).2.obj j).alive = true := by
  have hf := alloc_fresh hi
  cases bad_args with
  | true => exact ⟨hi, ⟨rfl, rfl, rfl⟩, fun j hj => by cases hj⟩
  | false =>
    cases alloc with
    | false => exact ⟨hi, ⟨rfl, rfl, rfl⟩, fun j hj => by cases hj⟩
    | true =>
      cases is_default with
      | false =>
        rw [new_loop_own hos]
        obtain ⟨hinv, halike, hobj⟩ := finish_spec false os hf (Or.inl rfl)
        exact ⟨hinv, ⟨halike.default_loop, halike.initing, halike.returned⟩,
          fun j hj => (hobj j hj).2⟩
      | true =>
        rw [new_loop_default hos]
        obtain ⟨hfresh, halike, hu⟩ := uv_default_loop_spec os_default hf
        generalize uv_default_loop s.alloc os_default = p at hfresh halike hu ⊢
        obtain ⟨u, t⟩ := p
        cases u with
        | none =>
          refine ⟨?_, ⟨halike.default_loop, halike.initing, halike.returned⟩,
            fun j hj => by cases hj⟩
          have ht := hfresh.inv
          exact ⟨ht.unborn, ht.embedded, ht.own, ht.held, ht.kept, ht.initing⟩
        | some u =>
          obtain ⟨hinv, halike', hobj⟩ := finish_spec true os hfresh
            (Or.inr (hu u rfl))
          refine ⟨hinv, ⟨?_, ?_, ?_⟩, fun j hj => (hobj j hj).2⟩
          · exact halike'.default_loop.trans halike.default_loop
          · exact halike'.initing.trans halike.initing
          · exact halike'.returned.trans halike.returned

theorem incref_inv (hi : Inv s) (halive : (s.obj k).alive = true) : Inv (Py_INCREF s k) :=
  hi.set_refs halive _

theorem decref_inv (hi : Inv s) (halive : (s.obj k).alive = true) : Inv (Py_DECREF s k) := by
  have hset := hi.set_refs halive ((s.obj k).refs - 1)
  unfold Py_DECREF
  dsimp only
  split
  · rename_i hlast
    exact dealloc_inv hset (by rw [set_obj_self]; exact halive) hlast.1 hlast.2
  · exact hset

/-- The object that default_loop() keeps gets one more reference. -/
theorem return_default_loop_inv (hi : Inv s) : Inv (return_default_loop s) := by
  unfold return_default_loop
  split
  · exact hi
  · rename_i k hk
    have hinc := incref_inv hi (hi.kept k hk)
    exact ⟨hinc.unborn, hinc.embedded, hinc.own, hinc.held, hinc.kept, hinc.initing⟩

theorem loop_new_inv {bad_args alloc : Bool} (hi : Inv s) (hos : os ≤ 0) :
    Inv (Loop_tp_new s bad_args alloc os) := by
  obtain ⟨hinv, -, hobj⟩ := new_loop_spec false bad_args alloc 0 hi hos
  unfold Loop_tp_new
  generalize new_loop s false bad_args alloc 0 os = p at hinv hobj ⊢
  obtain ⟨r, t⟩ := p
  cases r with
  | obj k => exact incref_inv hinv (hobj k rfl)
  | raise e => exact hinv
  | crash => exact hinv

theorem default_loop_inv {subclass alloc : Bool} (hi : Inv s) (hos : os ≤ 0) :
    Inv (Loop_func_default_loop s subclass alloc os_default os) := by
  unfold Loop_func_default_loop
  split
  · exact return_default_loop_inv hi
  · obtain ⟨hinv, -, hobj⟩ := new_loop_spec true false alloc os_default hi hos
    generalize new_loop s true false alloc os_default os = p at hinv hobj ⊢
    obtain ⟨r, t⟩ := p
    cases r with
    | raise e => exact hinv
    | crash => exact hinv
    | obj k =>
      have hset : ∀ b, Inv { t with default_loop := some k, initing := b } := by
        intro b
        refine ⟨hinv.unborn, hinv.embedded, hinv.own, hinv.held, ?_, fun _ => Option.some_ne_none k⟩
        rintro j ⟨⟩
        exact hobj k rfl
      dsimp only
      split
      · exact hset true
      · exact return_default_loop_inv (hset t.initing)

theorem tp_init_returns_inv (hi : Inv s) (ok : Bool) : Inv (tp_init_returns s ok) := by
  have hdone : Inv { s with initing := false } :=
    ⟨hi.unborn, hi.embedded, hi.own, hi.held, hi.kept, fun hinit => by cases hinit⟩
  unfold tp_init_returns
  dsimp only
  split
  · exact return_default_loop_inv hdone
  · split
    · exact hdone
    · rename_i k hk
      have hnone : Inv { s with initing := false, default_loop := none } :=
        ⟨hi.unborn, hi.embedded, hi.own, hi.held, fun j hj => (Option.some_ne_none j hj.symm).elim,
          fun hinit => by cases hinit⟩
      split
      · rename_i hlast
        exact dealloc_inv hnone (hi.kept k hk) hlast (by simp)
      · exact hnone

/-- One step keeps the books right. -/
theorem step_inv (s : St) (a : Act) (t : St) (hi : Inv s) (hstep : step s a = some t) : Inv t := by
  unfold step at hstep
  split at hstep
  · cases hstep
  · cases a with
    | Loop bad_args alloc os =>
      dsimp only at hstep
      split at hstep
      · rename_i hos
        cases hstep
        exact loop_new_inv hi hos
      · cases hstep
    | default_loop subclass alloc os_default os =>
      dsimp only at hstep
      split at hstep
      · rename_i hos
        cases hstep
        exact default_loop_inv hi hos.2
      · cases hstep
    | tp_init_returns ok =>
      dsimp only at hstep
      split at hstep
      · cases hstep
        exact tp_init_returns_inv hi ok
      · cases hstep
    | take k =>
      dsimp only at hstep
      split at hstep
      · rename_i hreachable
        cases hstep
        rcases hreachable with hrefs | ⟨-, hdefault⟩
        · exact incref_inv hi (hi.held k hrefs)
        · exact incref_inv hi (hi.kept k hdefault)
      · cases hstep
    | drop k =>
      dsimp only at hstep
      split at hstep
      · rename_i hrefs
        cases hstep
        exact decref_inv hi (hi.held k hrefs)
      · cases hstep

end

/-- The loop in an object is initialised while the object is alive, and closed with it. -/
theorem embedded_loops_alternate {as : List Act} {t : St}
    (hrun : runs.exec step start as = some t) (k : Nat) :
    initialised (t.calls (.loop_struct k)) =
      some (decide ((t.obj k).alive = true ∧ (t.obj k).uv_loop = some (.loop_struct k))) :=
  (runs.exec_keeps step_inv start_inv hrun).embedded k

/-- A default loop that has been returned, with no tp_init running, stays the default loop. -/
theorem the_default_loop_stays {s t : St} {as : List Act} {k : Nat} (hi : Inv s)
    (hdefault : s.default_loop = some k) (hdone : s.initing = false)
    (hrun : runs.exec step s as = some t) :
    t.default_loop = some k ∧ (t.obj k).alive = true := by
  suffices h : Inv t ∧ t.default_loop = some k ∧ t.initing = false from ⟨h.2.1, h.1.kept k h.2.1⟩
  refine runs.exec_keeps (I := fun s => Inv s ∧ s.default_loop = some k ∧ s.initing = false)
    (fun s a t hs hstep => ⟨step_inv s a t hs.1 hstep, ?_⟩) ⟨hi, hdefault, hdone⟩ hrun
  obtain ⟨hi, hdefault, hdone⟩ := hs
  have hrets : (return_default_loop s).default_loop = some k ∧
      (return_default_loop s).initing = false := by
    unfold return_default_loop
    rw [hdefault]
    exact ⟨hdefault, hdone⟩
  unfold step at hstep
  split at hstep
  · cases hstep
  · cases a with
    | Loop bad_args alloc os =>
      dsimp only at hstep
      split at hstep
      · rename_i hos
        cases hstep
        obtain ⟨-, halike, -⟩ := new_loop_spec false bad_args alloc 0 hi hos
        unfold Loop_tp_new
        generalize new_loop s false bad_args alloc 0 os = p at halike ⊢
        obtain ⟨r, u⟩ := p
        have hu : u.default_loop = some k ∧ u.initing = false :=
          ⟨halike.default_loop.trans hdefault, halike.initing.trans hdone⟩
        cases r <;> exact hu
      · cases hstep
    | default_loop subclass alloc os_default os =>
      dsimp only at hstep
      split at hstep
      · cases hstep
        unfold Loop_func_default_loop
        rw [if_pos (by rw [hdefault]; exact Option.some_ne_none k)]
        exact hrets
      · cases hstep
    | tp_init_returns ok =>
      dsimp only at hstep
      rw [hdone] at hstep
      cases hstep
    | take j =>
      dsimp only at hstep
      split at hstep
      · cases hstep
        exact ⟨hdefault, hdone⟩
      · cases hstep
    | drop j =>
      dsimp only at hstep
      split at hstep
      · cases hstep
        unfold Py_DECREF
        dsimp only
        split
        · have halike := dealloc_alike (k := j)
            (s := s.set j { s.obj j with refs := (s.obj j).refs - 1 })
          exact ⟨halike.default_loop.trans hdefault, halike.initing.trans hdone⟩
        · exact ⟨hdefault, hdone⟩
      · cases hstep

/-! ## Runs without a default loop -/

/-- Nothing has been done with the default loop. -/
structure Plain (s : St) : Prop where
  inv : Inv s
  default_loop : s.default_loop = none
  default_loop_ptr : s.default_loop_ptr = false
  calls : s.calls .default_loop_struct = []
  returned : s.returned = []
  crashed : s.crashed = false
  uv_loop : ∀ k, (s.obj k).uv_loop ≠ some .default_loop_struct

/-- No default loop at the start. -/
theorem start_plain : Plain start :=
  ⟨start_inv, rfl, rfl, rfl, rfl, rfl, fun _ h => by cases h⟩

section

variable {s t : St} {k : Nat}

/-- Without a default loop the contract holds. -/
theorem Plain.contract (hp : Plain s) : Contract s := by
  have hembedded := hp.inv.embedded
  refine ⟨fun u => ?_, fun u => ?_, fun u k j hk hj hku hju => ?_, ?_, fun _ => ?_, hp.crashed⟩
  · cases u with
    | loop_struct k =>
      rw [hembedded k]
      exact Option.some_ne_none _
    | default_loop_struct =>
      rw [hp.calls]
      exact Option.some_ne_none _
  · cases u with
    | loop_struct k =>
      rw [hembedded k, Option.some.injEq, decide_eq_true_eq]
      constructor
      · intro hk
        exact ⟨k, hk⟩
      · rintro ⟨j, halive, hj⟩
        obtain rfl := hp.inv.own j k hj
        exact ⟨halive, hj⟩
    | default_loop_struct =>
      rw [hp.calls]
      refine iff_of_false (by simp [initialised]) ?_
      rintro ⟨k, -, hk⟩
      exact hp.uv_loop k hk
  · cases u with
    | loop_struct i => exact (hp.inv.own k i hku).symm.trans (hp.inv.own j i hju)
    | default_loop_struct => exact absurd hku (hp.uv_loop k)
  · rw [hp.returned]
    rintro k ⟨⟩
  · rw [hp.calls]
    exact ⟨hp.default_loop_ptr, rfl⟩

/-- From `s` to `t` nothing is done with the default loop. -/
structure Untouched (s t : St) : Prop where
  alike : Alike s t
  default_loop_ptr : t.default_loop_ptr = s.default_loop_ptr
  calls : t.calls .default_loop_struct = s.calls .default_loop_struct
  crashed : t.crashed = s.crashed
  uv_loop : ∀ k, (t.obj k).uv_loop = some .default_loop_struct →
    (s.obj k).uv_loop = some .default_loop_struct

theorem Untouched.refl (s : St) : Untouched s s :=
  ⟨⟨rfl, rfl, rfl⟩, rfl, rfl, rfl, fun _ => id⟩

/-- Along a sequence. -/
theorem Untouched.trans {u : St} (hst : Untouched s t) (htu : Untouched t u) : Untouched s u where
  alike := ⟨htu.alike.default_loop.trans hst.alike.default_loop,
    htu.alike.initing.trans hst.alike.initing, htu.alike.returned.trans hst.alike.returned⟩
  default_loop_ptr := htu.default_loop_ptr.trans hst.default_loop_ptr
  calls := htu.calls.trans hst.calls
  crashed := htu.crashed.trans hst.crashed
  uv_loop k hk := hst.uv_loop k (htu.uv_loop k hk)

/-- What leaves the default loop alone keeps a state without one. -/
theorem Plain.untouched (hp : Plain s) (hi : Inv t) (hu : Untouched s t) : Plain t where
  inv := hi
  default_loop := hu.alike.default_loop.trans hp.default_loop
  default_loop_ptr := hu.default_loop_ptr.trans hp.default_loop_ptr
  calls := hu.calls.trans hp.calls
  returned := hu.alike.returned.trans hp.returned
  crashed := hu.crashed.trans hp.crashed
  uv_loop k hk := hp.uv_loop k (hu.uv_loop k hk)

/-- An object that has the struct of its own, or none. -/
theorem set_untouched {o : LoopObj} (ho : o.uv_loop = some .default_loop_struct →
    (s.obj k).uv_loop = some .default_loop_struct) : Untouched s (s.set k o) := by
  refine ⟨⟨rfl, rfl, rfl⟩, rfl, rfl, rfl, fun j hj => ?_⟩
  by_cases hjk : j = k
  · subst hjk
    rw [set_obj_self] at hj
    exact ho hj
  · rwa [set_obj_of_ne hjk] at hj

/-- Calls on other structs. -/
theorem called_untouched {c : LoopCall} : Untouched s (s.called (.loop_struct k) c) :=
  ⟨⟨rfl, rfl, rfl⟩, rfl, called_calls_of_ne (by simp), rfl, fun _ => id⟩

theorem alloc_untouched : Untouched s s.alloc := by
  have hset := set_untouched (s := s) (k := s.next) (o := { unborn with alive := true })
    (fun h => by cases h)
  exact ⟨⟨rfl, rfl, rfl⟩, rfl, rfl, rfl, hset.uv_loop⟩

/-- The end of an object that is not the default loop. -/
theorem dealloc_untouched (hk : (s.obj k).uv_loop ≠ some .default_loop_struct) :
    Untouched s (Loop_tp_dealloc s k) := by
  unfold Loop_tp_dealloc uv_loop_close
  split
  · rename_i u hu
    cases u with
    | default_loop_struct => exact absurd hu hk
    | loop_struct j =>
      rw [if_neg (by simp)]
      exact called_untouched.trans (set_untouched (by exact id))
  · exact set_untouched (by exact id)

/-- The end of new_loop on an object's own struct. -/
theorem finish_untouched (os : Int) (hf : Fresh s k) :
    Untouched s (finish s k (.loop_struct k) false os).2 := by
  have hnone : (s.obj k).uv_loop = none := by
    rw [hf.obj]
    rfl
  unfold finish
  split
  · refine called_untouched.trans (dealloc_untouched ?_)
    change (s.obj k).uv_loop ≠ some .default_loop_struct
    rw [hnone]
    exact (Option.some_ne_none _).symm
  · exact called_untouched.trans (set_untouched (fun h => by cases h))

/-- Loop() never touches the default loop. -/
theorem loop_new_untouched {bad_args alloc : Bool} {os : Int} (hi : Inv s) (hos : os ≤ 0) :
    Untouched s (Loop_tp_new s bad_args alloc os) := by
  unfold Loop_tp_new
  cases bad_args with
  | true => exact .refl s
  | false =>
    cases alloc with
    | false => exact .refl s
    | true =>
      rw [new_loop_own hos]
      have hfinish := alloc_untouched.trans (finish_untouched os (alloc_fresh hi))
      generalize finish s.alloc s.next (.loop_struct s.next) false os = p at hfinish ⊢
      obtain ⟨r, t⟩ := p
      cases r with
      | obj k => exact hfinish.trans (set_untouched (by exact id))
      | raise e => exact hfinish
      | crash => exact hfinish

theorem decref_untouched (hk : (s.obj k).uv_loop ≠ some .default_loop_struct) :
    Untouched s (Py_DECREF s k) := by
  have hset : Untouched s (s.set k { s.obj k with refs := (s.obj k).refs - 1 }) :=
    set_untouched (by exact id)
  unfold Py_DECREF
  dsimp only
  split
  · refine hset.trans (dealloc_untouched ?_)
    rw [set_obj_self]
    exact hk
  · exact hset

/-- An object without a struct makes no calls when it ends. -/
theorem dealloc_calls (hnone : (s.obj k).uv_loop = none) :
    (Loop_tp_dealloc s k).calls = s.calls := by
  unfold Loop_tp_dealloc
  rw [hnone]
  rfl

/-- A default loop that is created is initialised twice, or the call crashes. -/
theorem default_loop_broken {subclass : Bool} {os_default os : Int} (hp : Plain s) (hos : os ≤ 0) :
    ¬Contract (Loop_func_default_loop s subclass true os_default os) := by
  have hbroken : ∀ {t : St}, t.crashed = true ∨
      (∃ b, t.calls .default_loop_struct = [.init true, .init b]) → ¬Contract t := by
    rintro t (hcrashed | ⟨b, hcalls⟩) hc
    · rw [hc.running] at hcrashed
      cases hcrashed
    · apply hc.alternate .default_loop_struct
      rw [hcalls]
      rfl
  have hreturn : ∀ t : St, (return_default_loop t).calls = t.calls := by
    intro t
    unfold return_default_loop
    split <;> rfl
  apply hbroken
  unfold Loop_func_default_loop
  rw [if_neg (by simp [hp.default_loop]), new_loop_default hos]
  have hptr : s.alloc.default_loop_ptr = false := hp.default_loop_ptr
  have hcalls : s.alloc.calls .default_loop_struct = [] := hp.calls
  unfold uv_default_loop
  rw [if_neg (by simp [hptr])]
  by_cases herr : os_default = 0
  · subst herr
    right
    have honce : (s.alloc.called .default_loop_struct (.init true)).calls .default_loop_struct =
        [.init true] := by
      rw [called_calls_self, hcalls]
      rfl
    have hnone : (s.alloc.obj s.next).uv_loop = none := by
      rw [(alloc_fresh hp.inv).obj]
      rfl
    unfold uv_loop_init
    dsimp only
    rw [if_neg (by simp)]
    generalize hu : ({ s.alloc.called .default_loop_struct (.init (decide ((0 : Int) = 0))) with
      default_loop_ptr := true } : St) = u
    have hu_calls : u.calls .default_loop_struct = [.init true] := by
      rw [← hu]
      exact honce
    have hu_none : (u.obj s.next).uv_loop = none := by
      rw [← hu]
      exact hnone
    have htwice : ∀ b, (u.called .default_loop_struct (.init b)).calls .default_loop_struct =
        [.init true, .init b] := by
      intro b
      rw [called_calls_self, hu_calls]
      rfl
    unfold finish
    dsimp only
    by_cases hfails : os < 0
    · rw [if_pos hfails]
      refine ⟨false, ?_⟩
      dsimp only
      rw [dealloc_calls (by exact hu_none)]
      exact htwice false
    · rw [if_neg hfails]
      refine ⟨true, ?_⟩
      dsimp only
      split
      · exact htwice true
      · rw [hreturn]
        exact htwice true
  · left
    unfold uv_loop_init
    dsimp only
    rw [if_pos herr]

/-- Without memory for the object uv_default_loop is not reached. -/
theorem default_loop_refused {subclass : Bool} {os_default os : Int} (hp : Plain s) :
    Loop_func_default_loop s subclass false os_default os = s := by
  unfold Loop_func_default_loop new_loop
  rw [if_neg (by simp [hp.default_loop])]
  rfl

/-- The one step that breaks the contract is the creation of the default loop. -/
theorem step_contract_iff {a : Act} (hp : Plain s) (hstep : step s a = some t) :
    (¬creates_default s a → Plain t) ∧ (creates_default s a → ¬Contract t) := by
  have hinv := step_inv s a t hp.inv hstep
  have hplain : Untouched s t → ¬creates_default s a →
      (¬creates_default s a → Plain t) ∧ (creates_default s a → ¬Contract t) :=
    fun hu hnot => ⟨fun _ => hp.untouched hinv hu, fun hcreates => absurd hcreates hnot⟩
  unfold step at hstep
  rw [if_neg (by simp [hp.crashed])] at hstep
  cases a with
  | Loop bad_args alloc os =>
    dsimp only at hstep
    split at hstep
    · rename_i hos
      cases hstep
      exact hplain (loop_new_untouched hp.inv hos) id
    · cases hstep
  | default_loop subclass alloc os_default os =>
    dsimp only at hstep
    split at hstep
    · rename_i hos
      cases hstep
      cases alloc with
      | true =>
        refine ⟨fun hnot => absurd ⟨hp.default_loop, rfl⟩ hnot, fun _ => ?_⟩
        exact default_loop_broken hp hos.2
      | false =>
        refine hplain ?_ (by rintro ⟨-, ⟨⟩⟩)
        rw [default_loop_refused hp]
        exact .refl s
    · cases hstep
  | tp_init_returns ok =>
    dsimp only at hstep
    split at hstep
    · rename_i hiniting
      exact absurd hp.default_loop (hp.inv.initing hiniting)
    · cases hstep
  | take k =>
    dsimp only at hstep
    split at hstep
    · cases hstep
      exact hplain (set_untouched (by exact id)) id
    · cases hstep
  | drop k =>
    dsimp only at hstep
    split at hstep
    · cases hstep
      exact hplain (decref_untouched (hp.uv_loop k)) id
    · cases hstep

end

/-- The loops are initialised and closed as they should in exactly those runs in which
default_loop() never gets to create its object. -/
theorem loops_are_initialised_once_iff (as : List Act) :
    runs.Always step Contract start as ↔
      runs.Meets step (fun s a => ¬creates_default s a) start as := by
  refine runs.always_iff_meets (I := Plain) ?_ ?_ as start_plain start_plain.contract
  · intro s a t hp hnot hstep
    exact (step_contract_iff hp hstep).1 hnot
  · intro s a t hp hstep
    constructor
    · intro hc hcreates
      exact (step_contract_iff hp hstep).2 hcreates hc
    · intro hnot
      exact ((step_contract_iff hp hstep).1 hnot).contract

/-- One call of default_loop(), on Loop itself, with no error. -/
theorem the_default_loop_is_initialised_twice :
    ¬∀ as : List Act, runs.Always step Contract start as := by
  intro hclaim
  let as : List Act := [.default_loop false true 0 0]
  have hlast := runs.always_iff_exec.mp (hclaim as) as _ (List.prefix_refl as) rfl
  exact hlast.alternate .default_loop_struct rfl

end pyuv.loop_objects
