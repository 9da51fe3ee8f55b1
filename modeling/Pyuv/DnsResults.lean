-- What dns.getaddrinfo and dns.getnameinfo make of the answer of the resolver (src/dns.c): the
-- list of the addresses or the pair of the names, and the arguments of the callbacks, object by
-- object. The requests themselves and the list of the resolver are in Dns.
import Pyuv.Excepthook
import Pyuv.Dns

set_option linter.style.nameCheck false

namespace pyuv.dns_results

open ends indicator addr_tuples byte_order
open dns (addrinfo UV_ENOMEM)

/-! ## The objects -/

/-- An AddrinfoResult, with `none` for a field that is NULL. -/
structure AddrinfoResult where
  family : Option Int
  socktype : Option Int
  protocol : Option Int
  canonname : Option (List Char)
  addr : PyObj

/-- A Python value that the functions make or pass on. -/
inductive Value where
  | Py_None
  | int (n : Int)
  | addresses (items : List AddrinfoResult)
  | names (host service : List Char)

/-- For which of the objects of a node there is memory. -/
structure Memory where
  addr : Bool
  item : Bool
  family : Bool
  socktype : Bool
  protocol : Bool
  canonname : Bool
  append : Bool

/-- An entry of the list of addrinfo, and what memory there is for the result of it. -/
structure Node where
  ai : addrinfo
  memory : Memory

/-- What Python code does, the exception of a failed allocation, and for which of the other
objects there is memory. -/
structure Env where
  python : Python Value
  no_memory : Triple
  list : Bool
  names : Bool
  errorno : Bool

/-! The objects that the C code owns at some time. Those of a node go by its place. -/

/-- The object that the references to `dns_result` are counted for. -/
def dns_result_obj : Obj := 1

/-- That of `errorno`. -/
def errorno_obj : Obj := 2

/-- That of the address tuple of entry `i`. -/
def addr_obj (i : Nat) : Obj := 2 * i + 3

/-- That of the AddrinfoResult of entry `i`. -/
def item_obj (i : Nat) : Obj := 2 * i + 4

variable {α : Type} (o : ByteOrder) (inet : Inet) (E : Env)

/-! ## getaddrinfo -/

/-- A new object, or NULL with a MemoryError. -/
def allocate (fits : Bool) (p : Obj) (x : α) : Py Value (Option α) :=
  if fits then do
    modify (Interp.take [p])
    return some x
  else do
    raise E.no_memory
    return none

/-- A new object that goes into a field at once. -/
def new_field (fits : Bool) (x : Py Value (Option α)) : Py Value (Option α) :=
  if fits then x
  else do
    raise E.no_memory
    return none

/-- An int may be too large for the memory there is. -/
def PyInt_FromLong (fits : Bool) (n : Int) : Py Value (Option Int) :=
  new_field E fits (pure (some n))

/-- The bytes of ai_canonname, none of them for NULL. -/
def canonname (node : Node) : List UInt8 := node.ai.ai_canonname.getD []

/-- The fields of an item, which takes over the address. -/
def set_items (i : Nat) (node : Node) (addr : PyObj) : Py Value AddrinfoResult := do
  let family ← PyInt_FromLong E node.memory.family node.ai.ai_family
  let socktype ← PyInt_FromLong E node.memory.socktype node.ai.ai_socktype
  let protocol ← PyInt_FromLong E node.memory.protocol node.ai.ai_protocol
  let name ← new_field E node.memory.canonname (Py_BuildValue_s E.python (canonname node))
  modify (Interp.drop [addr_obj i])
  return ⟨family, socktype, protocol, name, addr⟩

/-- The end of the loop, where an object is missing. Nothing is released. -/
def break_loop : Py Value (Option AddrinfoResult) := do
  PyErr_Clear
  return none

/-- PyStructSequence_New, and the fields of it. -/
def new_item (i : Nat) (node : Node) (addr : PyObj) : Py Value (Option AddrinfoResult) := do
  match ← allocate E node.memory.item (item_obj i) () with
  | none => break_loop
  | some () => some <$> set_items E i node addr

/-- One entry that has an address: the tuple, then the item. -/
def convert (i : Nat) (node : Node) (sa : sockaddr) : Py Value (Option AddrinfoResult) := do
  match ← allocate E node.memory.addr (addr_obj i) (makesockaddr o inet sa) with
  | none => break_loop
  | some addr => new_item E i node addr

/-- What the list has got of an item. -/
def PyList_Append (fits : Bool) (item : AddrinfoResult) : Py Value (List AddrinfoResult) :=
  if fits then return [item]
  else do
    raise E.no_memory
    return []

/-- The items that are appended from the node of a place on. -/
def walk : Nat → List Node → Py Value (List AddrinfoResult)
  | _, [] => pure []
  | i, node :: nodes =>
    match node.ai.ai_addr with
    | none => walk (i + 1) nodes
    | some sa => do
      match ← convert o inet E i node sa with
      | none => return []
      | some item => do
        let appended ← PyList_Append E node.memory.append item
        modify (Interp.drop [item_obj i])
        let rest ← walk (i + 1) nodes
        return appended ++ rest

/-- The status, and what `dns_result` points to. -/
def pyuv__getaddrinfo_process_result (status : Int) (res : List Node) :
    Py Value (Int × Option Value) :=
  if status ≠ 0 then return (status, none)
  else do
    match ← allocate E E.list dns_result_obj () with
    | none => return (UV_ENOMEM, none)
    | some () => do
      let items ← walk o inet E 0 res
      return (0, some (.addresses items))

/-! ## getnameinfo -/

/-- Py_BuildValue("ss", hostname, service) -/
def Py_BuildValue_ss (hostname service : List UInt8) : Py Value (Option Value) :=
  new_field E E.names (do
    match ← Py_BuildValue_s E.python hostname with
    | none => return none
    | some host =>
      match ← Py_BuildValue_s E.python service with
      | none => return none
      | some service => do
        modify (Interp.take [dns_result_obj])
        return some (.names host service))

/-- The test for NULL is of the pointer to the result, which is there. -/
def pyuv__getnameinfo_process_result (status : Int) (hostname service : List UInt8) :
    Py Value (Int × Option Value) :=
  if status ≠ 0 then return (status, none)
  else do
    let gni_result ← Py_BuildValue_ss E hostname service
    return (0, gni_result)

/-! ## The callbacks -/

/-- Py_DECREF, of NULL too. -/
def release (p : Obj) (x : Option Value) : Py Value Unit := do
  Py_DECREF x
  modify (Interp.drop [p])

/-- The call, with the objects that are given back afterwards. -/
def deliver (result errorno : Obj × Option Value) : Py Value Unit := do
  call_back E.python [result.2, errorno.2]
  release result.1 result.2
  release errorno.1 errorno.2

/-- PYUV_SET_NONE -/
def Py_None_taken : Py Value (Obj × Option Value) := do
  modify (Interp.take [Py_None])
  return (Py_None, some .Py_None)

/-- What follows in both callbacks once the result is there. -/
def finish (err : Int) (result : Option Value) : Py Value Unit :=
  if err = 0 then do
    let errorno ← Py_None_taken
    deliver E (dns_result_obj, result) errorno
  else do
    let errorno ← allocate E E.errorno errorno_obj (Value.int err)
    let result ← Py_None_taken
    deliver E result (errorno_obj, errorno)

/-- The result is made, and the callback is told. -/
def pyuv__getaddrinfo_cb (status : Int) (res : List Node) : Py Value Unit := do
  let (err, dns_result) ← pyuv__getaddrinfo_process_result o inet E status res
  finish E err dns_result

/-- The names are made, and the callback is told. -/
def pyuv__getnameinfo_cb (status : Int) (hostname service : List UInt8) : Py Value Unit := do
  let (err, gni_result) ← pyuv__getnameinfo_process_result E status hostname service
  finish E err gni_result

/-! ## The contract -/

/-- A field for each of the data of the node, with '' for a canonical name that is not there. -/
structure Entry (ai : addrinfo) (sa : sockaddr) (item : AddrinfoResult) : Prop where
  family : item.family = some ai.ai_family
  socktype : item.socktype = some ai.ai_socktype
  protocol : item.protocol = some ai.ai_protocol
  canonname : ∃ text, item.canonname = some text ∧ utf8.encode text = ai.ai_canonname.getD []
  addr : item.addr = makesockaddr o inet sa

/-- The nodes with a length, each with its address. -/
def addressed (res : List Node) : List (addrinfo × sockaddr) :=
  res.filterMap fun node => node.ai.ai_addr.map fun sa => (node.ai, sa)

/-- There is memory for all of a node, and its canonical name is UTF-8. -/
structure Node.Fits (node : Node) : Prop where
  addr : node.memory.addr = true
  item : node.memory.item = true
  family : node.memory.family = true
  socktype : node.memory.socktype = true
  protocol : node.memory.protocol = true
  name : node.memory.canonname = true
  append : node.memory.append = true
  text : utf8.decode (canonname node) ≠ none

/-- A node with no length need not be converted. -/
def Node.Convertible (node : Node) : Prop := node.ai.ai_addr ≠ none → node.Fits

/-- A success comes with the whole list, a node that cannot be converted is an error, and in the
end nothing is owned but the list. -/
def Whole (status : Int) (res : List Node) (s : Interp Value) : Prop :=
  ∃ err result t, pyuv__getaddrinfo_process_result o inet E status res s = .ok (err, result) t ∧
    (err = 0 → ∃ items, result = some (.addresses items) ∧
      List.Forall₂ (fun entry => Entry o inet entry.1 entry.2) (addressed res) items) ∧
    ((∃ node ∈ res, ¬node.Convertible) → err ≠ 0) ∧
    ∀ p, t.owned p = s.owned p + (if result.isSome then [dns_result_obj] else []).count p

/-- A success comes with the two names. -/
def Named (status : Int) (hostname service : List UInt8) (s : Interp Value) : Prop :=
  ∃ err result t,
    pyuv__getnameinfo_process_result E status hostname service s = .ok (err, result) t ∧
      (err = 0 → ∃ host serv, result = some (.names host serv) ∧
        utf8.encode host = hostname ∧ utf8.encode serv = service)

/-- The callback is called once, with a result and an error of which one is None. Afterwards only
the SystemExit of Python code stops the function. -/
def Answered (m : Py Value Unit) (s : Interp Value) : Prop :=
  ∃ t pending result errorno,
    (m s = .ok () t ∨ m s = .error .exited t) ∧
      t.calls = s.calls ++ [⟨[result, errorno], pending⟩] ∧
      (result = .Py_None ∧ errorno ≠ .Py_None ∨ result ≠ .Py_None ∧ errorno = .Py_None)

/-! ## Parts that neither stop nor call -/

variable {o inet E} {β : Type}

/-- A part that always comes back, and calls nothing of Python. -/
def Returns (m : Py Value α) : Prop := ∀ s, ∃ a t, m s = .ok a t ∧ t.calls = s.calls

/-- Functions that always return, in a row. -/
theorem Returns.bind {x : Py Value α} {f : α → Py Value β} (hx : Returns x)
    (hf : ∀ a, Returns (f a)) : Returns (x >>= f) := by
  intro s
  obtain ⟨a, t, ht, hcalls⟩ := hx s
  obtain ⟨b, u, hu, hcalls'⟩ := hf a t
  refine ⟨b, u, ?_, hcalls'.trans hcalls⟩
  rw [bind_of_ok ht, hu]

theorem returns_pure (a : α) : Returns (pure a : Py Value α) := fun s => ⟨a, s, rfl, rfl⟩

theorem returns_raise (e : Triple) : Returns (raise e : Py Value Unit) :=
  fun _ => ⟨(), _, rfl, rfl⟩

theorem returns_take (ps : List Obj) : Returns (modify (Interp.take ps) : Py Value PUnit) :=
  fun _ => ⟨⟨⟩, _, rfl, rfl⟩

theorem returns_drop (ps : List Obj) : Returns (modify (Interp.drop ps) : Py Value PUnit) :=
  fun _ => ⟨⟨⟩, _, rfl, rfl⟩

theorem returns_new_field {x : Py Value (Option α)} (hx : Returns x) (fits : Bool) :
    Returns (new_field E fits x) := by
  unfold new_field
  split
  · exact hx
  · exact (returns_raise _).bind fun _ => returns_pure _

/-- An allocation that fails returns NULL. -/
theorem returns_allocate (fits : Bool) (p : Obj) (x : α) : Returns (allocate E fits p x) := by
  unfold allocate
  split
  · exact (returns_take _).bind fun _ => returns_pure _
  · exact (returns_raise _).bind fun _ => returns_pure _

theorem returns_Py_BuildValue_s (bytes : List UInt8) :
    Returns (Py_BuildValue_s E.python bytes : Py Value (Option (List Char))) := by
  unfold Py_BuildValue_s
  split
  · exact returns_pure _
  · exact (returns_raise _).bind fun _ => returns_pure _

theorem returns_break_loop : Returns break_loop := fun _ => ⟨none, _, rfl, rfl⟩

theorem returns_set_items (i : Nat) (node : Node) (addr : PyObj) :
    Returns (set_items E i node addr) := by
  have hint : ∀ fits n, Returns (PyInt_FromLong E fits n) :=
    fun fits _ => returns_new_field (returns_pure _) fits
  apply (hint _ _).bind
  intro _
  apply (hint _ _).bind
  intro _
  apply (hint _ _).bind
  intro _
  apply (returns_new_field (returns_Py_BuildValue_s _) _).bind
  intro _
  exact (returns_drop _).bind fun _ => returns_pure _

theorem returns_new_item (i : Nat) (node : Node) (addr : PyObj) :
    Returns (new_item E i node addr) := by
  apply (returns_allocate _ _ _).bind
  intro item
  cases item with
  | none => exact returns_break_loop
  | some _ => exact (returns_set_items i node addr).bind fun _ => returns_pure _

theorem returns_convert (i : Nat) (node : Node) (sa : sockaddr) :
    Returns (convert o inet E i node sa) := by
  apply (returns_allocate _ _ _).bind
  intro addr
  cases addr with
  | none => exact returns_break_loop
  | some addr => exact returns_new_item i node addr

theorem returns_PyList_Append (fits : Bool) (item : AddrinfoResult) :
    Returns (PyList_Append E fits item) := by
  unfold PyList_Append
  split
  · exact returns_pure _
  · exact (returns_raise _).bind fun _ => returns_pure _

variable (o inet E)

/-- The walk comes to an end, at the end of the list or before it. -/
theorem returns_walk (i : Nat) (nodes : List Node) : Returns (walk o inet E i nodes) := by
  induction nodes generalizing i with
  | nil => exact returns_pure _
  | cons node nodes ih =>
    unfold walk
    split
    · exact ih (i + 1)
    · apply (returns_convert i node _).bind
      intro item
      cases item with
      | none => exact returns_pure _
      | some item =>
        apply (returns_PyList_Append _ _).bind
        intro appended
        apply (returns_drop _).bind
        intro _
        exact (ih (i + 1)).bind fun _ => returns_pure _

variable {o inet E}

/-! ## Nodes that can be converted -/

theorem allocate_eq {fits : Bool} (h : fits = true) (p : Obj) (x : α) (s : Interp Value) :
    allocate E fits p x s = .ok (some x) (s.take [p]) := by
  rw [h]
  rfl

theorem PyInt_FromLong_eq {fits : Bool} (h : fits = true) (n : Int) (s : Interp Value) :
    PyInt_FromLong E fits n s = .ok (some n) s := by
  rw [h]
  rfl

/-- The entry of a node, with the text of its name. -/
def entry (ai : addrinfo) (text : List Char) (addr : PyObj) : AddrinfoResult :=
  ⟨some ai.ai_family, some ai.ai_socktype, some ai.ai_protocol, some text, addr⟩

theorem convert_eq {node : Node} (h : node.Fits) {text : List Char}
    (htext : utf8.decode (canonname node) = some text) (i : Nat) (sa : sockaddr)
    (s : Interp Value) :
    convert o inet E i node sa s = .ok (some (entry node.ai text (makesockaddr o inet sa)))
      (((s.take [addr_obj i]).take [item_obj i]).drop [addr_obj i]) := by
  let held := (s.take [addr_obj i]).take [item_obj i]
  have hname : new_field E node.memory.canonname (Py_BuildValue_s E.python (canonname node)) held =
      .ok (some text) held := by
    rw [h.name]
    exact Py_BuildValue_s_eq htext held
  have hset : set_items E i node (makesockaddr o inet sa) held =
      .ok (entry node.ai text (makesockaddr o inet sa)) (held.drop [addr_obj i]) := by
    unfold set_items
    rw [bind_of_ok (PyInt_FromLong_eq h.family _ held),
      bind_of_ok (PyInt_FromLong_eq h.socktype _ held),
      bind_of_ok (PyInt_FromLong_eq h.protocol _ held), bind_of_ok hname]
    rfl
  unfold convert
  rw [bind_of_ok (allocate_eq h.addr _ _ s)]
  change new_item E i node (makesockaddr o inet sa) (s.take [addr_obj i]) = _
  unfold new_item
  rw [bind_of_ok (allocate_eq h.item _ _ _)]
  exact bind_of_ok hset

variable (o inet E) in

/-- By induction on the list: one entry for each node. -/
theorem walk.spec {nodes : List Node} (h : ∀ node ∈ nodes, node.Convertible) (i : Nat)
    (s : Interp Value) :
    ∃ items t, walk o inet E i nodes s = .ok items t ∧ (∀ p, t.owned p = s.owned p) ∧
      List.Forall₂ (fun entry => Entry o inet entry.1 entry.2) (addressed nodes) items := by
  induction nodes generalizing i s with
  | nil => exact ⟨[], s, rfl, fun _ => rfl, .nil⟩
  | cons node nodes ih =>
    have hrest := fun node hnode => h node (List.mem_cons_of_mem _ hnode)
    unfold walk addressed
    cases haddr : node.ai.ai_addr with
    | none =>
      rw [List.filterMap_cons_none (by rw [haddr]; rfl)]
      exact ih hrest (i + 1) s
    | some sa =>
      have hfits : node.Fits := h node List.mem_cons_self (by rw [haddr]; nofun)
      obtain ⟨text, htext⟩ := Option.ne_none_iff_exists'.mp hfits.text
      let done := ((((s.take [addr_obj i]).take [item_obj i]).drop [addr_obj i])).drop [item_obj i]
      obtain ⟨items, t, ht, howned, hitems⟩ := ih hrest (i + 1) done
      refine ⟨entry node.ai text (makesockaddr o inet sa) :: items, t, ?_, ?_, ?_⟩
      · have happend : PyList_Append E node.memory.append
            (entry node.ai text (makesockaddr o inet sa)) =
            pure [entry node.ai text (makesockaddr o inet sa)] := by
          rw [hfits.append]
          rfl
        dsimp only
        rw [bind_of_ok (convert_eq hfits htext i sa s)]
        dsimp only
        rw [happend]
        change (walk o inet E (i + 1) nodes >>= fun rest => pure _ : Py Value _) done = _
        rw [bind_of_ok ht]
        rfl
      · intro p
        rw [howned p]
        let pending := (s.pending.elim [] Triple.objs).count p
        change s.refs p + [addr_obj i].count p + [item_obj i].count p - [addr_obj i].count p -
          [item_obj i].count p - pending = s.refs p - pending
        omega
      · rw [List.filterMap_cons_some (b := (node.ai, sa)) (by rw [haddr]; rfl)]
        exact .cons ⟨rfl, rfl, rfl, ⟨text, rfl, utf8.decode_eq_some_iff.mp htext⟩, rfl⟩ hitems

/-- Where there is no memory for the item, the walk ends and the address is never released. -/
theorem convert_leaks_addr {node : Node} (haddr : node.memory.addr = true)
    (hitem : node.memory.item = false) (i : Nat) (sa : sockaddr) (s : Interp Value) :
    ∃ t, convert o inet E i node sa s = .ok none t ∧
      ∀ p, t.owned p = s.owned p + [addr_obj i].count p := by
  let held := s.take [addr_obj i]
  let failed := (held.take E.no_memory.objs).restore (some E.no_memory)
  refine ⟨failed.restore none, ?_, ?_⟩
  · unfold convert
    rw [bind_of_ok (allocate_eq haddr _ _ s)]
    change new_item E i node (makesockaddr o inet sa) held = _
    unfold new_item allocate
    rw [hitem]
    rfl
  · intro p
    have hraise := (leaves_raise E.no_memory held).owned p
    let pending := (s.pending.elim [] Triple.objs).count p
    change held.refs p + E.no_memory.objs.count p - pending - E.no_memory.objs.count p - 0 =
      s.refs p - pending + [addr_obj i].count p
    change s.refs p + [addr_obj i].count p + E.no_memory.objs.count p - pending -
      E.no_memory.objs.count p - 0 = _
    omega

/-! ## The two results -/

theorem pyuv__getaddrinfo_process_result_refused {status : Int} (h : status ≠ 0)
    (res : List Node) (s : Interp Value) :
    pyuv__getaddrinfo_process_result o inet E status res s = .ok (status, none) s := by
  unfold pyuv__getaddrinfo_process_result
  rw [if_pos h]
  rfl

theorem pyuv__getaddrinfo_process_result_no_list (h : E.list = false) (res : List Node)
    (s : Interp Value) :
    pyuv__getaddrinfo_process_result o inet E 0 res s =
      .ok (UV_ENOMEM, none) ((s.take E.no_memory.objs).restore (some E.no_memory)) := by
  unfold pyuv__getaddrinfo_process_result allocate
  rw [if_neg (by decide), h]
  rfl

variable (o inet) in
theorem pyuv__getaddrinfo_process_result_walk (h : E.list = true) (res : List Node)
    (s : Interp Value) :
    pyuv__getaddrinfo_process_result o inet E 0 res s =
      (walk o inet E 0 res >>= fun items => pure (0, some (.addresses items)))
        (s.take [dns_result_obj]) := by
  unfold pyuv__getaddrinfo_process_result
  rw [if_neg (by decide), bind_of_ok (allocate_eq h _ _ s)]

theorem owned_raise (e : Triple) (s : Interp Value) (p : Obj) :
    ((s.take e.objs).restore (some e)).owned p = s.owned p := by
  have howned := (leaves_raise e s).owned p
  rw [List.count_nil] at howned
  omega

/-- Nothing is missing exactly if every node can be converted. -/
theorem whole_iff (status : Int) (res : List Node) (s : Interp Value) :
    Whole o inet E status res s ↔
      (status = 0 ∧ E.list = true → ∀ node ∈ res, node.Convertible) := by
  unfold Whole
  by_cases hstatus : status = 0
  · subst hstatus
    cases hlist : E.list with
    | false =>
      refine ⟨fun _ h => absurd h.2 (by decide), fun _ => ?_⟩
      refine ⟨_, _, _, pyuv__getaddrinfo_process_result_no_list hlist res s, ?_, ?_, ?_⟩
      · exact fun h => absurd h (by decide)
      · exact fun _ => by decide
      · intro p
        rw [owned_raise]
        exact (Int.add_zero _).symm
    | true =>
      have hrun := pyuv__getaddrinfo_process_result_walk o inet hlist res s
      constructor
      · rintro ⟨err, result, t, ht, -, hfailed, -⟩ -
        obtain ⟨items, u, hu, -⟩ :=
          returns_walk o inet E 0 res (s.take [dns_result_obj])
        rw [hrun, bind_of_ok hu] at ht
        cases ht
        intro node hnode
        by_contra hnot
        exact hfailed ⟨node, hnode, hnot⟩ rfl
      · intro hall
        obtain ⟨items, t, ht, howned, hitems⟩ :=
          walk.spec o inet E (hall ⟨rfl, rfl⟩) 0 (s.take [dns_result_obj])
        refine ⟨0, some (.addresses items), t, ?_, fun _ => ⟨items, rfl, hitems⟩, ?_, ?_⟩
        · rw [hrun, bind_of_ok ht]
          rfl
        · rintro ⟨node, hnode, hnot⟩
          exact absurd (hall ⟨rfl, rfl⟩ node hnode) hnot
        · intro p
          rw [howned p]
          let pending := (s.pending.elim [] Triple.objs).count p
          change s.refs p + [dns_result_obj].count p - pending =
            s.refs p - pending + [dns_result_obj].count p
          omega
  · refine ⟨fun _ h => absurd h.1 hstatus, fun _ => ?_⟩
    refine ⟨_, _, _, pyuv__getaddrinfo_process_result_refused hstatus res s, ?_, ?_, ?_⟩
    · exact fun h => absurd h hstatus
    · exact fun _ => hstatus
    · exact fun _ => (Int.add_zero _).symm

/-- There is memory for the pair, and the names are UTF-8. -/
def Buildable (E : Env) (hostname service : List UInt8) : Prop :=
  E.names = true ∧ utf8.decode hostname ≠ none ∧ utf8.decode service ≠ none

theorem Py_BuildValue_ss_ok {hostname service : List UInt8} (h : Buildable E hostname service)
    (s : Interp Value) :
    ∃ host serv t, Py_BuildValue_ss E hostname service s = .ok (some (.names host serv)) t ∧
      t.calls = s.calls ∧ utf8.encode host = hostname ∧ utf8.encode serv = service := by
  obtain ⟨hnames, hhost, hserv⟩ := h
  obtain ⟨host, hhost⟩ := Option.ne_none_iff_exists'.mp hhost
  obtain ⟨serv, hserv⟩ := Option.ne_none_iff_exists'.mp hserv
  refine ⟨host, serv, s.take [dns_result_obj], ?_, rfl, utf8.decode_eq_some_iff.mp hhost,
    utf8.decode_eq_some_iff.mp hserv⟩
  unfold Py_BuildValue_ss new_field
  rw [if_pos hnames, bind_of_ok (Py_BuildValue_s_eq hhost s)]
  dsimp only
  rw [bind_of_ok (Py_BuildValue_s_eq hserv s)]
  rfl

/-- A name that is no text gives NULL. -/
theorem Py_BuildValue_ss_null {hostname service : List UInt8} (h : ¬Buildable E hostname service)
    (s : Interp Value) :
    ∃ t, Py_BuildValue_ss E hostname service s = .ok none t ∧ t.calls = s.calls := by
  unfold Py_BuildValue_ss new_field
  by_cases hnames : E.names = true
  · rw [if_pos hnames]
    cases hhost : utf8.decode hostname with
    | none =>
      rw [bind_of_ok (Py_BuildValue_s_null hhost s)]
      exact ⟨_, rfl, rfl⟩
    | some host =>
      rw [bind_of_ok (Py_BuildValue_s_eq hhost s)]
      cases hserv : utf8.decode service with
      | none =>
        dsimp only
        rw [bind_of_ok (Py_BuildValue_s_null hserv s)]
        exact ⟨_, rfl, rfl⟩
      | some serv =>
        exact absurd ⟨hnames, by rw [hhost]; nofun, by rw [hserv]; nofun⟩ h
  · rw [if_neg hnames]
    exact ⟨_, rfl, rfl⟩

theorem pyuv__getnameinfo_process_result_refused {status : Int} (h : status ≠ 0)
    (hostname service : List UInt8) (s : Interp Value) :
    pyuv__getnameinfo_process_result E status hostname service s = .ok (status, none) s := by
  unfold pyuv__getnameinfo_process_result
  rw [if_pos h]
  rfl

theorem pyuv__getnameinfo_process_result_eq {hostname service : List UInt8} {s t : Interp Value}
    {result : Option Value} (h : Py_BuildValue_ss E hostname service s = .ok result t) :
    pyuv__getnameinfo_process_result E 0 hostname service s = .ok (0, result) t := by
  unfold pyuv__getnameinfo_process_result
  rw [if_neg (by decide), bind_of_ok h]
  rfl

/-- The names are those of the system exactly if they are texts. -/
theorem named_iff (status : Int) (hostname service : List UInt8) (s : Interp Value) :
    Named E status hostname service s ↔ (status = 0 → Buildable E hostname service) := by
  unfold Named
  by_cases hstatus : status = 0
  · subst hstatus
    by_cases hbuild : Buildable E hostname service
    · refine ⟨fun _ _ => hbuild, fun _ => ?_⟩
      obtain ⟨host, serv, t, ht, -, hhost, hserv⟩ := Py_BuildValue_ss_ok hbuild s
      exact ⟨0, _, t, pyuv__getnameinfo_process_result_eq ht,
        fun _ => ⟨host, serv, rfl, hhost, hserv⟩⟩
    · refine ⟨?_, fun h => absurd (h rfl) hbuild⟩
      rintro ⟨err, result, t, ht, hnames⟩
      obtain ⟨u, hu, -⟩ := Py_BuildValue_ss_null hbuild s
      cases ht.symm.trans (pyuv__getnameinfo_process_result_eq hu)
      obtain ⟨host, serv, hnull, -⟩ := hnames rfl
      cases hnull
  · refine ⟨fun _ h => absurd h hstatus, fun _ => ?_⟩
    exact ⟨status, none, s, pyuv__getnameinfo_process_result_refused hstatus _ _ s,
      fun h => absurd h hstatus⟩

/-! ## The callbacks -/

/-- Programs that end alike answer alike. -/
theorem Answered.of_run {m m' : Py Value Unit} {s t : Interp Value} (h : m s = m' t)
    (hcalls : t.calls = s.calls) : Answered m s ↔ Answered m' t := by
  unfold Answered
  rw [h, hcalls]

/-- One of the two arguments is None, and no other. -/
def OneNone (result errorno : Value) : Prop :=
  result = .Py_None ∧ errorno ≠ .Py_None ∨ result ≠ .Py_None ∧ errorno = .Py_None

theorem deliver_answered {p q : Obj} {result errorno : Value} (h : OneNone result errorno)
    (s : Interp Value) : Answered (deliver E (p, some result) (q, some errorno)) s := by
  unfold Answered deliver
  rcases call_back.spec (P := E.python) s [some result, some errorno] with
    ⟨t, ht, hcalls, -⟩ | ⟨t, ht, hcalls⟩
  · rw [bind_of_ok ht]
    exact ⟨_, s.pending, result, errorno, .inl rfl, hcalls, h⟩
  · rw [bind_of_error ht]
    exact ⟨t, s.pending, result, errorno, .inr rfl, hcalls, h⟩

theorem release_null (p : Obj) (s : Interp Value) : release p none s = .error .crash s := rfl

theorem release_eq (p : Obj) (v : Value) (s : Interp Value) :
    release p (some v) s = .ok () (s.drop [p]) := rfl

theorem releases_null {x y : Obj × Option Value} (h : x.2 = none ∨ y.2 = none)
    (s : Interp Value) :
    ∃ t, (release x.1 x.2 >>= fun _ => release y.1 y.2) s = .error .crash t := by
  cases hx : x.2 with
  | none => exact ⟨s, bind_of_error (release_null _ s)⟩
  | some result =>
    have hy : y.2 = none := h.resolve_left (by rw [hx]; nofun)
    refine ⟨s.drop [x.1], ?_⟩
    rw [bind_of_ok (release_eq _ _ s), hy]
    exact release_null _ _

/-- A NULL ends the arguments, and it is a NULL that is released. -/
theorem deliver_null {x y : Obj × Option Value} (h : x.2 = none ∨ y.2 = none) (s : Interp Value) :
    ¬Answered (deliver E x y) s := by
  have hshort : (indicator.given [x.2, y.2]).length ≠ 2 := by
    rcases h with h | h
    · rw [h]
      simp [indicator.given]
    · rw [h]
      cases x.2 <;> simp [indicator.given]
  rintro ⟨t, pending, result, errorno, hend, hcalls, -⟩
  unfold deliver at hend
  rcases call_back.spec (P := E.python) s [x.2, y.2] with ⟨u, hu, -⟩ | ⟨u, hu, hcalled⟩
  · obtain ⟨v, hv⟩ := releases_null h u
    rw [bind_of_ok hu, hv] at hend
    rcases hend with hend | hend <;> cases hend
  · rw [bind_of_error hu] at hend
    rcases hend with hend | hend <;> cases hend
    have heq := List.append_cancel_left (hcalled.symm.trans hcalls)
    rw [List.cons.injEq, Call.mk.injEq] at heq
    rw [heq.1.1] at hshort
    exact hshort rfl

theorem Py_None_taken_eq (s : Interp Value) :
    Py_None_taken s = .ok (Py_None, some .Py_None) (s.take [Py_None]) := rfl

theorem finish_run (result : Option Value) (s : Interp Value) :
    finish E 0 result s =
      deliver E (dns_result_obj, result) (Py_None, some .Py_None) (s.take [Py_None]) := by
  unfold finish
  rw [if_pos rfl, bind_of_ok (Py_None_taken_eq s)]

theorem finish_ok {result : Value} (h : result ≠ .Py_None) (s : Interp Value) :
    Answered (finish E 0 (some result)) s := by
  rw [Answered.of_run (finish_run _ s) rfl]
  exact deliver_answered (.inr ⟨h, rfl⟩) _

theorem finish_null (s : Interp Value) : ¬Answered (finish E 0 none) s := by
  rw [Answered.of_run (finish_run _ s) rfl]
  exact deliver_null (.inl rfl) _

theorem finish_error {err : Int} (h : err ≠ 0) (result : Option Value) (s : Interp Value) :
    Answered (finish E err result) s ↔ E.errorno = true := by
  have hrun : ∀ {errorno t}, allocate E E.errorno errorno_obj (Value.int err) s = .ok errorno t →
      finish E err result s = deliver E (Py_None, some .Py_None) (errorno_obj, errorno)
        (t.take [Py_None]) := by
    intro errorno t ht
    unfold finish
    rw [if_neg h, bind_of_ok ht, bind_of_ok (Py_None_taken_eq t)]
  cases herrorno : E.errorno with
  | true =>
    rw [Answered.of_run (hrun (allocate_eq herrorno _ _ s)) rfl]
    exact ⟨fun _ => rfl, fun _ => deliver_answered (.inl ⟨rfl, fun hnone => by cases hnone⟩) _⟩
  | false =>
    have hnull : allocate E E.errorno errorno_obj (Value.int err) s =
        .ok none ((s.take E.no_memory.objs).restore (some E.no_memory)) := by
      unfold allocate
      rw [herrorno]
      rfl
    rw [Answered.of_run (hrun hnull) rfl]
    exact ⟨fun hans => absurd hans (deliver_null (.inr rfl) _), fun hno => by cases hno⟩

theorem getaddrinfo_answered_iff (status : Int) (res : List Node) (s : Interp Value) :
    Answered (pyuv__getaddrinfo_cb o inet E status res) s ↔
      (status = 0 ∧ E.list = true ∨ E.errorno = true) := by
  have hrun : ∀ {err result t}, pyuv__getaddrinfo_process_result o inet E status res s =
      .ok (err, result) t → pyuv__getaddrinfo_cb o inet E status res s = finish E err result t :=
    fun h => bind_of_ok h
  by_cases hstatus : status = 0
  · subst hstatus
    cases hlist : E.list with
    | true =>
      obtain ⟨items, t, ht, hcalls⟩ :=
        returns_walk o inet E 0 res (s.take [dns_result_obj])
      have hresult := pyuv__getaddrinfo_process_result_walk o inet hlist res s
      rw [bind_of_ok ht] at hresult
      rw [Answered.of_run (hrun hresult) hcalls]
      exact ⟨fun _ => .inl ⟨rfl, rfl⟩, fun _ => finish_ok (fun hnone => by cases hnone) t⟩
    | false =>
      rw [Answered.of_run (hrun (pyuv__getaddrinfo_process_result_no_list hlist res s)) rfl,
        finish_error (by decide)]
      exact ⟨.inr, fun h => h.resolve_left fun hok => absurd hok.2 (by decide)⟩
  · rw [Answered.of_run (hrun (pyuv__getaddrinfo_process_result_refused hstatus res s)) rfl,
      finish_error hstatus]
    exact ⟨.inr, fun h => h.resolve_left fun hok => hstatus hok.1⟩

theorem getnameinfo_answered_iff (status : Int) (hostname service : List UInt8)
    (s : Interp Value) :
    Answered (pyuv__getnameinfo_cb E status hostname service) s ↔
      if status = 0 then Buildable E hostname service else E.errorno = true := by
  have hrun : ∀ {err result t}, pyuv__getnameinfo_process_result E status hostname service s =
      .ok (err, result) t →
        pyuv__getnameinfo_cb E status hostname service s = finish E err result t :=
    fun h => bind_of_ok h
  by_cases hstatus : status = 0
  · subst hstatus
    rw [if_pos rfl]
    by_cases hbuild : Buildable E hostname service
    · obtain ⟨host, serv, t, ht, hcalls, -⟩ := Py_BuildValue_ss_ok hbuild s
      rw [Answered.of_run (hrun (pyuv__getnameinfo_process_result_eq ht)) hcalls]
      exact ⟨fun _ => hbuild, fun _ => finish_ok (fun hnone => by cases hnone) t⟩
    · obtain ⟨t, ht, hcalls⟩ := Py_BuildValue_ss_null hbuild s
      rw [Answered.of_run (hrun (pyuv__getnameinfo_process_result_eq ht)) hcalls]
      exact ⟨fun hans => absurd hans (finish_null t), fun h => absurd h hbuild⟩
  · rw [if_neg hstatus, Answered.of_run
      (hrun (pyuv__getnameinfo_process_result_refused hstatus hostname service s)) rfl]
    exact finish_error hstatus _ _

/-! ## The law -/

/-- The results are as they should be if and only if all that they need is there. A part that
cannot be made is not told to the caller: the list is cut short there or has a NULL in it, the
pair is NULL, and a callback without its result or its error brings the process down. -/
theorem dns_results_are_whole_iff (o : ByteOrder) (inet : Inet) (E : Env) (status : Int)
    (res : List Node) (hostname service : List UInt8) (s : Interp Value) :
    (Whole o inet E status res s ↔
      (status = 0 ∧ E.list = true → ∀ node ∈ res, node.Convertible)) ∧
    (Named E status hostname service s ↔ (status = 0 → Buildable E hostname service)) ∧
    (Answered (pyuv__getaddrinfo_cb o inet E status res) s ↔
      (status = 0 ∧ E.list = true ∨ E.errorno = true)) ∧
    (Answered (pyuv__getnameinfo_cb E status hostname service) s ↔
      if status = 0 then Buildable E hostname service else E.errorno = true) :=
  ⟨whole_iff status res s, named_iff status hostname service s,
    getaddrinfo_answered_iff status res s, getnameinfo_answered_iff status hostname service s⟩

/-- The address 127.0.0.1, with a name of /etc/hosts in Latin-1. -/
def latin1 : Node where
  ai := ⟨2, 1, 6, some [99, 97, 102, 0xe9], some (.AF_INET ⟨0, 0x7f000001⟩)⟩
  memory := ⟨true, true, true, true, true, true, true⟩

/-- Nothing fails, and the excepthook is None. -/
def all_fits : Env where
  python :=
    { is_AttributeError := fun _ => false
      is_SystemExit := fun _ => false
      excepthook := .returned Py_None
      normalize := id
      hook := fun _ _ _ _ => .returned Py_None
      callee := fun _ _ => .returned Py_None
      decode_error := ⟨50, none, none⟩ }
  no_memory := ⟨51, none, none⟩
  list := true
  names := true
  errorno := true

/-- An interpreter without an exception and without references. -/
def nothing_owned : Interp Value := ⟨none, fun _ => 0, [], []⟩

/-- A success is reported, and the name is NULL. -/
theorem a_latin1_name_is_NULL :
    (∃ item t,
    pyuv__getaddrinfo_process_result .little plainInet all_fits 0 [latin1] nothing_owned =
      .ok (0, some (.addresses [item])) t ∧ item.canonname = none) ∧
    ¬Whole .little plainInet all_fits 0 [latin1] nothing_owned := by
  have hrun : ∃ item t,
      pyuv__getaddrinfo_process_result .little plainInet all_fits 0 [latin1] nothing_owned =
        .ok (0, some (.addresses [item])) t ∧ item.canonname = none := ⟨_, _, rfl, rfl⟩
  refine ⟨hrun, ?_⟩
  rintro ⟨err, result, t, ht, -, hfailed, -⟩
  obtain ⟨item, u, hu, -⟩ := hrun
  cases hu.symm.trans ht
  refine hfailed ⟨latin1, List.mem_singleton.mpr rfl, ?_⟩ rfl
  intro hconvertible
  have hfits := hconvertible nofun
  exact hfits.text (by decide)

end pyuv.dns_results
