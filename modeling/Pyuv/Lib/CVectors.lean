-- Vectors of pointers that end in NULL, as C programs build them: a block of slots, written one
-- after the other and read up to the first NULL.
import Mathlib.Data.List.Basic

namespace cvectors

variable {α β : Type*}

/-- A slot of a vector: nobody wrote it, or NULL or a pointer was written. -/
inductive Slot (α : Type*) where
  | unwritten
  | null
  | ptr (a : α)
deriving DecidableEq, Repr

/-- A slot outside of the block cannot be written. -/
def write (v : List (Slot α)) (i : Nat) (x : Slot α) : Option (List (Slot α)) :=
  if i < v.length then some (v.set i x) else none

/-- The pointers before the NULL. A slot that is not written or not in the block cannot be read. -/
def scan : List (Slot α) → Option (List α)
  | [] => none
  | .unwritten :: _ => none
  | .null :: _ => some []
  | .ptr a :: v => (scan v).map (a :: ·)

/-- A vector with its first pointers written, and room for more slots. -/
def building (as : List α) (room : Nat) : List (Slot α) :=
  as.map .ptr ++ List.replicate room .unwritten

/-- The vector has its final length from the start. -/
theorem building_length (as : List α) (room : Nat) :
    (building as room).length = as.length + room := by simp [building]

theorem building_set (as : List α) (room : Nat) (x : Slot α) :
    (building as (room + 1)).set as.length x =
      as.map .ptr ++ x :: List.replicate room .unwritten := by
  unfold building
  rw [List.set_append_right _ _ (by simp)]
  simp [List.replicate_succ]

/-- The next pointer goes to the first unwritten slot. -/
theorem write_ptr (as : List α) (room : Nat) (a : α) :
    write (building as (room + 1)) as.length (.ptr a) = some (building (as ++ [a]) room) := by
  have hlt : as.length < (building as (room + 1)).length := by
    rw [building_length]
    omega
  unfold write
  rw [if_pos hlt, building_set]
  simp [building]

/-- Beyond the last slot there is nothing to write to. -/
theorem write_full (as : List α) (x : Slot α) : write (building as 0) as.length x = none := by
  have hlt : ¬as.length < (building as 0).length := by
    rw [building_length]
    omega
  unfold write
  rw [if_neg hlt]

/-- A scan ends at the first NULL. -/
theorem scan_map_ptr (as : List α) (v : List (Slot α)) :
    scan (as.map .ptr ++ .null :: v) = some as := by
  induction as with
  | nil => rfl
  | cons a as ih =>
    simp only [List.map_cons, List.cons_append, scan]
    rw [ih]
    rfl

/-- The NULL ends the vector after the pointers that were written. -/
theorem write_null (as : List α) (room : Nat) :
    ∃ v, write (building as (room + 1)) as.length .null = some v ∧ scan v = some as := by
  have hlt : as.length < (building as (room + 1)).length := by
    rw [building_length]
    omega
  refine ⟨_, if_pos hlt, ?_⟩
  rw [building_set]
  exact scan_map_ptr as _

/-! ## Items that may be missing -/

/-- What comes of a loop that fills a vector: it ends with its NULL, or at an item that is not to
be had, with the NULL there, or there is no slot for what it writes. -/
inductive Filled (α : Type*) where
  | done (as : List α)
  | failed (as : List α)
  | overrun
deriving DecidableEq, Repr

/-- One more at the front. -/
def Filled.cons (a : α) : Filled α → Filled α
  | .done as => .done (a :: as)
  | .failed as => .failed (a :: as)
  | .overrun => .overrun

/-- The items in order, and the slots that are left. -/
def fill : List (Option α) → Nat → Filled α
  | _, 0 => .overrun
  | [], _ + 1 => .done []
  | none :: _, _ + 1 => .failed []
  | some a :: xs, room + 1 => (fill xs room).cons a

/-- A vector is done with one more item exactly if the rest of it is. -/
theorem Filled.cons_eq_done_iff {a : α} {f : Filled α} {as : List α} :
    f.cons a = .done as ↔ ∃ bs, f = .done bs ∧ as = a :: bs := by
  cases f <;> simp [Filled.cons, eq_comm]

/-- The vector is done where every item is there, and a slot for each and for the NULL. -/
theorem fill_eq_done_iff {xs : List (Option α)} {room : Nat} {as : List α} :
    fill xs room = .done as ↔ xs = as.map some ∧ xs.length < room := by
  induction xs generalizing room as with
  | nil =>
    cases room with
    | zero => simp [fill]
    | succ room =>
      have hnil : fill ([] : List (Option α)) (room + 1) = .done [] := rfl
      rw [hnil]
      cases as <;> simp
  | cons x xs ih =>
    cases room with
    | zero => cases x <;> simp [fill]
    | succ room =>
      cases x with
      | none =>
        cases as with
        | nil => simp [fill]
        | cons a as => simp [fill]
      | some x =>
        unfold fill
        rw [Filled.cons_eq_done_iff]
        constructor
        · rintro ⟨bs, hbs, rfl⟩
          obtain ⟨hxs, hlen⟩ := ih.mp hbs
          refine ⟨by rw [hxs]; rfl, ?_⟩
          simpa using hlen
        · rintro ⟨hxs, hlen⟩
          cases as with
          | nil => cases hxs
          | cons a as =>
            rw [List.map_cons, List.cons.injEq] at hxs
            obtain rfl := Option.some.inj hxs.1
            exact ⟨as, ih.mpr ⟨hxs.2, by simpa using hlen⟩, rfl⟩

/-- All of a list is there. -/
theorem exists_map_some_iff {xs : List (Option α)} :
    (∃ as : List α, xs = as.map some) ↔ none ∉ xs := by
  constructor
  · rintro ⟨as, rfl⟩
    simp
  · intro h
    induction xs with
    | nil => exact ⟨[], rfl⟩
    | cons x xs ih =>
      cases x with
      | none => exact absurd List.mem_cons_self h
      | some a =>
        obtain ⟨as, rfl⟩ := ih fun hmem => h (List.mem_cons_of_mem _ hmem)
        exact ⟨a :: as, rfl⟩

/-- With a slot for each item and for the NULL, nothing is written outside of the block. -/
theorem fill_ne_overrun {xs : List (Option α)} {room : Nat} (h : xs.length < room) :
    fill xs room ≠ .overrun := by
  induction xs generalizing room with
  | nil =>
    obtain ⟨room, rfl⟩ := Nat.exists_eq_succ_of_ne_zero (Nat.ne_of_gt h)
    simp [fill]
  | cons x xs ih =>
    cases room with
    | zero => simp at h
    | succ room =>
      cases x with
      | none => simp [fill]
      | some x =>
        have hroom : xs.length < room := by simpa using h
        have hrest := ih hroom
        unfold fill
        cases hfill : fill xs room with
        | overrun => exact absurd hfill hrest
        | done as => simp [Filled.cons]
        | failed as => simp [Filled.cons]

end cvectors
