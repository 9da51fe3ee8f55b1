-- The callback of an FSEvent handle (pyuv__fsevent_cb in src/fs.c). The name of a file is any
-- bytes, and only those that are UTF-8 become a string.
import Pyuv.Indicator

set_option linter.style.nameCheck false

namespace pyuv.fs_events

open ends indicator

/-- The arguments of the Python callback. -/
inductive Arg where
  | self
  | Py_None
  | str (text : List Char)
  | int (n : Int)
deriving DecidableEq, Repr

variable (P : Python Arg)

/-- The argument for the file name: None for NULL, NULL for a name that is no text. -/
def py_filename (filename : Option (List UInt8)) : Py Arg (Option Arg) :=
  match filename with
  | none => pure (some .Py_None)
  | some bytes => do
    let text ← Py_BuildValue_s P bytes
    return text.map .str

/-- The argument for the status: None where it is no error. -/
def errorno (status : Int) : Arg := if status < 0 then .int status else .Py_None

/-- The handle itself is kept during the call. -/
def pyuv__fsevent_cb (filename : Option (List UInt8)) (events status : Int) : Py Arg Unit := do
  let name ← py_filename P filename
  call_back P [some .self, name, some (.int events), some (errorno status)]
  Py_DECREF (some (Arg.int events))
  Py_DECREF name
  Py_DECREF (some (errorno status))

/-! ## The contract -/

/-- What stands for a file name. One that is not UTF-8 may be given in any way. -/
def Denotes (filename : Option (List UInt8)) (name : Arg) : Prop :=
  match filename with
  | none => name = .Py_None
  | some bytes => ∀ text, utf8.encode text = bytes → name = .str text

/-- There was one call, with four arguments and nothing pending. -/
def Told (filename : Option (List UInt8)) (events status : Int) (s t : Interp Arg) : Prop :=
  ∃ name, Denotes filename name ∧
    t.calls = s.calls ++ [⟨[.self, name, .int events, errorno status], none⟩]

/-- The callback is told, and nothing is pending at the end. Only SystemExit ends it early. -/
def Proper (filename : Option (List UInt8)) (events status : Int) (s : Interp Arg) : Prop :=
  match pyuv__fsevent_cb P filename events status s with
  | .ok _ t => Told filename events status s t ∧ t.pending = none
  | .error e t => Told filename events status s t ∧ e = .exited

variable {P}

/-- A name that is the file's makes the whole call proper. -/
theorem proper_of_name {filename : Option (List UInt8)} {events status : Int} {s : Interp Arg}
    {name : Arg} (hname : py_filename P filename s = .ok (some name) s)
    (hdenotes : Denotes filename name) (hs : s.pending = none) :
    Proper P filename events status s := by
  have hrun : pyuv__fsevent_cb P filename events status s =
      (call_back P ([.self, name, .int events, errorno status].map some) >>= fun _ =>
        pure () : Py Arg Unit) s := bind_of_ok hname
  unfold Proper
  rw [hrun]
  rcases call_back.spec (P := P) s ([.self, name, .int events, errorno status].map some) with
    ⟨t, ht, hcalls, hpending⟩ | ⟨t, ht, hcalls⟩
  · rw [given_map_some, hs] at hcalls
    rw [bind_of_ok ht]
    exact ⟨⟨name, hdenotes, hcalls⟩, hpending hs⟩
  · rw [given_map_some, hs] at hcalls
    rw [bind_of_error ht]
    exact ⟨⟨name, hdenotes, hcalls⟩, rfl⟩

/-- A name that is NULL ends the list of the arguments, and its release is a crash. -/
theorem not_proper_of_null {filename : Option (List UInt8)} {events status : Int}
    {s u : Interp Arg} (hname : py_filename P filename s = .ok none u)
    (hcalls : u.calls = s.calls) : ¬Proper P filename events status s := by
  have hrun : pyuv__fsevent_cb P filename events status s =
      (call_back P [some .self, none, some (.int events), some (errorno status)] >>= fun _ =>
        throw .crash : Py Arg Unit) u := bind_of_ok hname
  unfold Proper
  rw [hrun]
  rcases call_back.spec (P := P) u [some .self, none, some (.int events), some (errorno status)]
    with ⟨t, ht, -, -⟩ | ⟨t, ht, ht'⟩
  · rw [bind_of_ok ht]
    rintro ⟨-, h⟩
    cases h
  · rw [bind_of_error ht]
    rintro ⟨⟨name, -, htold⟩, -⟩
    rw [ht', hcalls] at htold
    have hlast := List.append_cancel_left htold
    injection hlast with hcall
    injection hcall with hargs
    cases hargs

/-- Which notifications are passed on, whatever the callback and the hook do. -/
theorem fs_events_are_passed_on_iff (P : Python Arg) (filename : Option (List UInt8))
    (events status : Int) :
    (∀ s, s.pending = none → Proper P filename events status s) ↔
      ∀ bytes, filename = some bytes → ∃ text, utf8.encode text = bytes := by
  cases filename with
  | none => exact iff_of_true (fun s hs => proper_of_name rfl rfl hs) (by simp)
  | some bytes =>
    cases hdecode : utf8.decode bytes with
    | some text =>
      have henc := utf8.decode_eq_some_iff.mp hdecode
      apply iff_of_true
      · intro s hs
        have hname : py_filename P (some bytes) s = .ok (some (.str text)) s :=
          bind_of_ok (Py_BuildValue_s_eq hdecode s)
        refine proper_of_name hname ?_ hs
        intro text' htext'
        rw [utf8.encode_injective (henc.trans htext'.symm)]
      · rintro _ ⟨⟩
        exact ⟨text, henc⟩
    | none =>
      apply iff_of_false
      · intro h
        let s : Interp Arg := ⟨none, fun _ => 0, [], []⟩
        have hname : py_filename P (some bytes) s = .ok none (refused P s) :=
          bind_of_ok (Py_BuildValue_s_null hdecode s)
        exact not_proper_of_null hname rfl (h s rfl)
      · intro h
        obtain ⟨text, htext⟩ := h bytes rfl
        rw [utf8.decode_eq_some_iff.mpr htext] at hdecode
        cases hdecode

/-- A file whose name is the byte 0xff, and a callback that returns. -/
theorem a_name_that_is_not_utf8_crashes : ¬∀ (P : Python Arg) (filename : Option (List UInt8))
    (events status : Int) (s : Interp Arg), s.pending = none →
      Proper P filename events status s := by
  let P : Python Arg :=
    { is_AttributeError _ := false, is_SystemExit _ := false, excepthook := .returned Py_None
      normalize := id, hook _ _ _ _ := .returned Py_None, callee _ _ := .returned Py_None
      decode_error := ⟨1, none, none⟩ }
  let s : Interp Arg := ⟨none, fun _ => 0, [], []⟩
  have hname : py_filename P (some [0xff]) s = .ok none (refused P s) :=
    bind_of_ok (Py_BuildValue_s_null (by decide) s)
  intro h
  exact not_proper_of_null hname rfl (h P (some [0xff]) 1 0 s rfl)

end pyuv.fs_events
