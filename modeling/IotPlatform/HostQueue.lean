import IotPlatform.Queues
import IotPlatform.Runs
import IotPlatform.Types

/-!
# The host queue of `iot_rtos.c`

On Win32 a queue is a ring of bytes under a mutex, with one semaphore for free places and one for
items. A call waits for its semaphore, works in the ring, and releases the other semaphore.
-/
namespace IotPlatform
open Queues Runs

/-- `iot_host_queue_t`, with the counts of its two semaphores and their maximum. -/
structure HostQueue where
  space : ℕ
  items : ℕ
  semMax : ℕ
  buf : ℕ → UInt8
  length : UInt32
  itemSize : UInt32
  head : UInt32
  tail : UInt32
  count : UInt32

/-- `iot_queue_create`; `made` says whether the allocations and the mutex succeed. A length that is
negative as a `LONG` makes no semaphore. -/
def iotQueueCreate (length itemSize : UInt32) (made : Bool) : IotErr × Option HostQueue :=
  if length = 0 ∨ itemSize = 0 then (.invalidArg, none)
  else if !made ∨ 2 ^ 31 ≤ length.toNat then (.noMem, none)
  else (.ok, some
    { space := length.toNat, items := 0, semMax := length.toNat, buf := fun _ => 0
      length := length, itemSize := itemSize, head := 0, tail := 0, count := 0 })

/-- `ReleaseSemaphore` by one, which fails at the maximum. -/
def releaseSemaphore (semMax count : ℕ) : ℕ := if count < semMax then count + 1 else count

/-- `memcpy` of an item to `buf + head * item_size`. -/
def HostQueue.store (q : HostQueue) (item : List UInt8) (i : ℕ) : UInt8 :=
  let off := (q.head * q.itemSize).toNat
  if off ≤ i ∧ i < off + q.itemSize.toNat then item.getD (i - off) 0 else q.buf i

/-- `memcpy` of an item from `buf + tail * item_size`. -/
def HostQueue.fetch (q : HostQueue) : List UInt8 :=
  (List.range q.itemSize.toNat).map fun j => q.buf ((q.tail * q.itemSize).toNat + j)

/-- The part of `host_q_send` under the mutex. -/
def HostQueue.put (q : HostQueue) (item : List UInt8) : HostQueue :=
  { q with buf := q.store item, head := (q.head + 1) % q.length, count := q.count + 1 }

/-- The part of `iot_queue_recv` under the mutex. -/
def HostQueue.take (q : HostQueue) : List UInt8 × HostQueue :=
  (q.fetch, { q with tail := (q.tail + 1) % q.length, count := q.count - 1 })

def iotQueueWaiting (q : HostQueue) : UInt32 := q.count

/-- Where a call is: before its wait, between its wait and the mutex, behind the mutex. -/
inductive CallPc
  | idle
  | sendWait (item : List UInt8)
  | sendIn (item : List UInt8)
  | sendOut
  | recvWait
  | recvIn
  | recvOut (item : List UInt8)

/-- The queue and the calls of the threads `C`, with the items in the order of their mutex
sections. -/
structure HostSys (C : Type) where
  q : HostQueue
  pc : C → CallPc
  sent : List (List UInt8)
  received : List (List UInt8)

/-- The start of a call, its wait or the end of the wait's time, its mutex section, its release. -/
inductive HostOp (C : Type)
  | send (c : C) (item : List UInt8)
  | recv (c : C)
  | wait (c : C)
  | timeout (c : C)
  | critical (c : C)
  | release (c : C)

variable {C : Type}

/-- The thread that takes a step. -/
def HostOp.caller : HostOp C → C
  | .send c _ | .recv c | .wait c | .timeout c | .critical c | .release c => c

/-- The code that a call returns in this step. -/
def HostSys.returns (s : HostSys C) : HostOp C → Option IotErr
  | .timeout c =>
    match s.pc c with
    | .sendWait _ => some .queueFull
    | .recvWait => some .timeout
    | _ => none
  | .release c =>
    match s.pc c with
    | .sendOut | .recvOut _ => some .ok
    | _ => none
  | _ => none

def HostSys.start (q : HostQueue) : HostSys C := ⟨q, fun _ => .idle, [], []⟩

section
variable [DecidableEq C]

def HostSys.goto (s : HostSys C) (c : C) (p : CallPc) : C → CallPc := Function.update s.pc c p

/-- One step; a step that is not the next one of its call changes nothing. -/
def HostSys.apply (s : HostSys C) : HostOp C → HostSys C
  | .send c item =>
    match s.pc c with
    | .idle =>
      if item.length = s.q.itemSize.toNat then { s with pc := s.goto c (.sendWait item) } else s
    | _ => s
  | .recv c =>
    match s.pc c with
    | .idle => { s with pc := s.goto c .recvWait }
    | _ => s
  | .wait c =>
    match s.pc c with
    | .sendWait item =>
      if 0 < s.q.space then
        { s with q := { s.q with space := s.q.space - 1 }, pc := s.goto c (.sendIn item) }
      else s
    | .recvWait =>
      if 0 < s.q.items then
        { s with q := { s.q with items := s.q.items - 1 }, pc := s.goto c .recvIn }
      else s
    | _ => s
  | .timeout c =>
    match s.pc c with
    | .sendWait _ | .recvWait => { s with pc := s.goto c .idle }
    | _ => s
  | .critical c =>
    match s.pc c with
    | .sendIn item =>
      { s with q := s.q.put item, pc := s.goto c .sendOut, sent := s.sent ++ [item] }
    | .recvIn =>
      let (item, q) := s.q.take
      { s with q := q, pc := s.goto c (.recvOut item), received := s.received ++ [item] }
    | _ => s
  | .release c =>
    match s.pc c with
    | .sendOut =>
      { s with
        q := { s.q with items := releaseSemaphore s.q.semMax s.q.items }
        pc := s.goto c .idle }
    | .recvOut _ =>
      { s with
        q := { s.q with space := releaseSemaphore s.q.semMax s.q.space }
        pc := s.goto c .idle }
    | _ => s

end

/-- The bytes of the `k`-th slot of the ring. -/
def HostQueue.slot (q : HostQueue) (k : ℕ) : List UInt8 :=
  (List.range q.itemSize.toNat).map fun j => q.buf (k * q.itemSize.toNat + j)

/-- The items in the queue, oldest first. -/
def HostQueue.contents (q : HostQueue) : List (List UInt8) :=
  window q.slot q.length.toNat q.tail.toNat q.count.toNat

/-- The indices lie in the ring, and the ring in the address range of 32 bits. -/
structure HostQueue.Shaped (q : HostQueue) : Prop where
  fits : q.length.toNat * q.itemSize.toNat < 2 ^ 32
  tail_lt : q.tail.toNat < q.length.toNat
  head_eq : q.head.toNat = (q.tail.toNat + q.count.toNat) % q.length.toNat
  sem : q.semMax = q.length.toNat

section
variable {q : HostQueue} {item : List UInt8}

/-- The offset of a slot is computed without overflow. -/
theorem offset_toNat (hq : q.Shaped) {i : UInt32} (hi : i.toNat < q.length.toNat) :
    (i * q.itemSize).toNat = i.toNat * q.itemSize.toNat := by
  have hle : i.toNat * q.itemSize.toNat ≤ q.length.toNat * q.itemSize.toNat :=
    Nat.mul_le_mul_right _ hi.le
  rw [UInt32.toNat_mul]
  exact Nat.mod_eq_of_lt (hle.trans_lt hq.fits)

/-- The next index is computed without overflow. -/
theorem next_toNat {i n : UInt32} (hi : i.toNat < n.toNat) :
    ((i + 1) % n).toNat = (i.toNat + 1) % n.toNat := by
  have hn := n.toNat_lt
  have hnext : (i.toNat + 1) % 2 ^ 32 = i.toNat + 1 := Nat.mod_eq_of_lt (by omega)
  rw [UInt32.toNat_mod, UInt32.toNat_add, UInt32.toNat_one, hnext]

theorem HostQueue.Shaped.head_lt (hq : q.Shaped) : q.head.toNat < q.length.toNat := by
  rw [hq.head_eq]
  exact Nat.mod_lt _ (Nat.zero_lt_of_lt hq.tail_lt)

/-- The bytes of two slots do not meet. -/
theorem slot_eq_of_mem {k h j n : ℕ} (hj : j < n) (hlo : h * n ≤ k * n + j)
    (hhi : k * n + j < h * n + n) : k = h := by
  have hn : 0 < n := Nat.zero_lt_of_lt hj
  have hlt : k * n < (h + 1) * n := by rw [Nat.add_mul, one_mul]; omega
  have hgt : h * n < (k + 1) * n := by rw [Nat.add_mul, one_mul]; omega
  have h1 := Nat.lt_of_mul_lt_mul_right hlt
  have h2 := Nat.lt_of_mul_lt_mul_right hgt
  omega

/-- The item goes to the slot at the head and to no other. -/
theorem slot_put (hq : q.Shaped) (hitem : item.length = q.itemSize.toNat) :
    (q.put item).slot = Function.update q.slot q.head.toNat item := by
  have hoff := offset_toNat hq hq.head_lt
  funext k
  by_cases hk : k = q.head.toNat
  · subst hk
    rw [Function.update_self]
    refine List.ext_getElem (by simp [HostQueue.slot, HostQueue.put, hitem]) fun j h1 h2 => ?_
    have hj : j < q.itemSize.toNat := hitem ▸ h2
    simp [HostQueue.slot, HostQueue.put, HostQueue.store, hoff, hj,
      List.getElem?_eq_getElem h2]
  · rw [Function.update_of_ne hk]
    refine List.map_congr_left fun j hj => ?_
    have hj' : j < q.itemSize.toNat := List.mem_range.mp hj
    simp only [HostQueue.put, HostQueue.store, hoff]
    exact if_neg fun hin => hk (slot_eq_of_mem hj' hin.1 hin.2)

theorem fetch_eq (hq : q.Shaped) : q.fetch = q.slot q.tail.toNat := by
  simp only [HostQueue.fetch, HostQueue.slot, offset_toNat hq hq.tail_lt]

theorem count_put (hroom : q.count.toNat < q.length.toNat) :
    (q.put item).count.toNat = q.count.toNat + 1 := by
  have hn := q.length.toNat_lt
  change (q.count + 1).toNat = _
  rw [UInt32.toNat_add, UInt32.toNat_one]
  exact Nat.mod_eq_of_lt (by omega)

theorem count_take (hcount : 0 < q.count.toNat) :
    q.take.2.count.toNat = q.count.toNat - 1 := by
  have h1 : (1 : UInt32) ≤ q.count := UInt32.le_iff_toNat_le.mpr hcount
  change (q.count - 1).toNat = _
  rw [UInt32.toNat_sub_of_le _ _ h1, UInt32.toNat_one]

/-- The semaphores do not matter to the ring. -/
theorem HostQueue.Shaped.recount (hq : q.Shaped) (space items : ℕ) :
    { q with space := space, items := items }.Shaped :=
  ⟨hq.fits, hq.tail_lt, hq.head_eq, hq.sem⟩

theorem HostQueue.Shaped.put (hq : q.Shaped) (hroom : q.count.toNat < q.length.toNat) :
    (q.put item).Shaped := by
  refine ⟨hq.fits, hq.tail_lt, ?_, hq.sem⟩
  rw [count_put hroom]
  calc ((q.head + 1) % q.length).toNat
      = (q.head.toNat + 1) % q.length.toNat := next_toNat hq.head_lt
    _ = (q.tail.toNat + q.count.toNat + 1) % q.length.toNat := by
      rw [hq.head_eq, Nat.mod_add_mod]

theorem HostQueue.Shaped.take (hq : q.Shaped) (hcount : 0 < q.count.toNat) :
    q.take.2.Shaped := by
  have hnext : ((q.tail + 1) % q.length).toNat = (q.tail.toNat + 1) % q.length.toNat :=
    next_toNat hq.tail_lt
  refine ⟨hq.fits, ?_, ?_, hq.sem⟩
  · change ((q.tail + 1) % q.length).toNat < q.length.toNat
    rw [hnext]
    exact Nat.mod_lt _ (Nat.zero_lt_of_lt hq.tail_lt)
  · change q.head.toNat = (((q.tail + 1) % q.length).toNat + _) % q.length.toNat
    rw [hnext, count_take hcount, hq.head_eq, Nat.mod_add_mod]
    congr 1
    omega

/-- Under the mutex a send appends its item. -/
theorem contents_put (hq : q.Shaped) (hroom : q.count.toNat < q.length.toNat)
    (hitem : item.length = q.itemSize.toNat) :
    (q.put item).contents = q.contents ++ [item] := by
  have hpush := window_push q.slot q.tail.toNat hroom item
  rw [← hq.head_eq, ← slot_put hq hitem, ← count_put hroom] at hpush
  exact hpush

/-- Under the mutex a reception copies the oldest item and removes it. -/
theorem contents_take (hq : q.Shaped) (hcount : 0 < q.count.toNat) :
    q.contents = q.fetch :: q.take.2.contents := by
  have hpop := window_pop q.slot hq.tail_lt hcount
  rw [← fetch_eq hq, ← next_toNat hq.tail_lt, ← count_take hcount] at hpop
  exact hpop

end

/-- The call holds a place that neither semaphore counts. -/
def CallPc.busy : CallPc → Bool
  | .sendIn _ | .sendOut | .recvIn | .recvOut _ => true
  | _ => false

/-- The item of the call is in the ring and the semaphore of items does not count it. -/
def CallPc.counted : CallPc → Bool
  | .sendOut | .recvIn => true
  | _ => false

theorem CallPc.busy_of_counted (p : CallPc) (h : p.counted) : p.busy := by
  cases p <;> simp_all [CallPc.busy, CallPc.counted]

/-- The call has its mutex section behind it. -/
def CallPc.done : CallPc → Bool
  | .sendOut | .recvOut _ => true
  | _ => false

/-- The item that a call has still to place. -/
def CallPc.carried : CallPc → Option (List UInt8)
  | .sendWait item | .sendIn item => some item
  | _ => none

/-- The semaphores, the count and the calls in flight of the threads `A` account for every place,
and what was received and what is in the ring is what was sent. -/
structure HostSys.Inv (A : Finset C) (s : HostSys C) : Prop where
  shaped : s.q.Shaped
  places : s.q.space + s.q.items + inFlight CallPc.busy A s.pc = s.q.length.toNat
  counts : s.q.count.toNat = s.q.items + inFlight CallPc.counted A s.pc
  bytes : ∀ c item, (s.pc c).carried = some item → item.length = s.q.itemSize.toNat
  order : s.sent = s.received ++ s.q.contents

section
variable {A : Finset C} {s : HostSys C} {c : C} {item : List UInt8}

/-- The count stays within the ring. -/
theorem HostSys.Inv.bound (hi : s.Inv A) : s.q.count.toNat ≤ s.q.length.toNat := by
  have hle := inFlight_le (A := A) s.pc CallPc.busy_of_counted
  have hp := hi.places
  have hk := hi.counts
  omega

/-- A send that has passed its wait finds a free slot. -/
theorem HostSys.Inv.room (hi : s.Inv A) (hc : c ∈ A) (hpc : s.pc c = .sendIn item) :
    s.q.count.toNat < s.q.length.toNat := by
  have hlt := inFlight_lt s.pc CallPc.busy_of_counted hc
    (by rw [hpc]; rfl) (by rw [hpc]; rfl)
  have hp := hi.places
  have hk := hi.counts
  omega

/-- A reception that has passed its wait finds an item. -/
theorem HostSys.Inv.nonempty (hi : s.Inv A) (hc : c ∈ A) (hpc : s.pc c = .recvIn) :
    0 < s.q.count.toNat := by
  have hpos := inFlight_pos (p := CallPc.counted) s.pc hc (by rw [hpc]; rfl)
  have hk := hi.counts
  omega

/-- A call in flight leaves both semaphores below their maximum. -/
theorem HostSys.Inv.below (hi : s.Inv A) (hc : c ∈ A) (hpc : (s.pc c).busy = true) :
    s.q.space < s.q.semMax ∧ s.q.items < s.q.semMax := by
  have hpos := inFlight_pos (p := CallPc.busy) s.pc hc hpc
  have hp := hi.places
  rw [hi.shaped.sem]
  omega

/-- A new queue accounts for all its places as free. -/
theorem created_inv {length itemSize : UInt32} {made : Bool} {q : HostQueue}
    (hq : iotQueueCreate length itemSize made = (.ok, some q))
    (hfits : length.toNat * itemSize.toNat < 2 ^ 32) (A : Finset C) :
    HostSys.Inv A (HostSys.start q) := by
  unfold iotQueueCreate at hq
  split_ifs at hq with hzero hmade
  · simp at hq
  · simp at hq
  · obtain rfl := Option.some.inj (congrArg Prod.snd hq)
    have hpos : 0 < length.toNat := by
      have h : length ≠ 0 := fun h => hzero (.inl h)
      exact Nat.pos_of_ne_zero fun h0 => h (UInt32.toNat_inj.mp h0)
    refine ⟨⟨hfits, hpos, ?_, rfl⟩, ?_, ?_, fun c item h => ?_, rfl⟩
    · simp [HostSys.start]
    · simp [HostSys.start, inFlight, CallPc.busy]
    · simp [HostSys.start, inFlight, CallPc.counted]
    · simp [HostSys.start, CallPc.carried] at h

/-- The queue is first-in first-out across a step: what was sent is what was received and what
waits, a send appends behind the waiting items, a reception returns the oldest, and no other part
of a call changes what waits. A call that returns with success has been through its section. -/
structure HostSys.Fifo (s : HostSys C) (op : HostOp C) (s' : HostSys C) : Prop where
  order : s'.sent = s'.received ++ s'.q.contents
  bound : (iotQueueWaiting s'.q).toNat = s'.q.contents.length ∧
    s'.q.contents.length ≤ s'.q.length.toNat
  put : ∀ c item, op = .critical c → s.pc c = .sendIn item →
    s.q.count.toNat < s.q.length.toNat ∧ s'.pc c = .sendOut ∧
      s'.q.contents = s.q.contents ++ [item] ∧ s'.sent = s.sent ++ [item] ∧
        s'.received = s.received
  taken : ∀ c, op = .critical c → s.pc c = .recvIn →
    0 < s.q.count.toNat ∧ ∃ item, s'.pc c = .recvOut item ∧
      s.q.contents = item :: s'.q.contents ∧ s'.sent = s.sent ∧
        s'.received = s.received ++ [item]
  kept : (∀ c, op ≠ .critical c) →
    s'.q.contents = s.q.contents ∧ s'.sent = s.sent ∧ s'.received = s.received
  failed : s.returns op = some .queueFull ∨ s.returns op = some .timeout → s'.q = s.q
  succeeded : s.returns op = some .ok → (s.pc op.caller).done = true
  passed : ∀ c, (s'.pc c).done = true → s'.pc c = s.pc c ∨ op = .critical c

variable [DecidableEq C]

/-- A call moves, and the queue changes by what the move accounts for. -/
theorem HostSys.Inv.goto (hi : s.Inv A) (hc : c ∈ A) {p : CallPc} {q : HostQueue}
    {sent received : List (List UInt8)} (hq : q.Shaped)
    (hlen : q.length = s.q.length) (hsize : q.itemSize = s.q.itemSize)
    (hplaces : q.space + q.items + p.busy.toNat =
      s.q.space + s.q.items + (s.pc c).busy.toNat)
    (hcounts : q.count.toNat + s.q.items + (s.pc c).counted.toNat =
      s.q.count.toNat + q.items + p.counted.toNat)
    (hbytes : ∀ item, p.carried = some item → item.length = s.q.itemSize.toNat)
    (horder : sent = received ++ q.contents) :
    HostSys.Inv A ⟨q, s.goto c p, sent, received⟩ := by
  have hb := inFlight_update (p := CallPc.busy) s.pc hc p
  have hn := inFlight_update (p := CallPc.counted) s.pc hc p
  have hp := hi.places
  have hk := hi.counts
  refine ⟨hq, ?_, ?_, fun c' item h => ?_, horder⟩
  · change q.space + q.items + inFlight CallPc.busy A (Function.update s.pc c p) =
      q.length.toNat
    rw [hlen]
    omega
  · change q.count.toNat = q.items + inFlight CallPc.counted A (Function.update s.pc c p)
    omega
  · change item.length = q.itemSize.toNat
    rw [hsize]
    by_cases hcc : c' = c
    · subst hcc
      exact hbytes item (by simpa [HostSys.goto] using h)
    · exact hi.bytes c' item (by simpa [HostSys.goto, Function.update_of_ne hcc] using h)

/-- A call moves and leaves the queue alone. -/
theorem HostSys.Inv.turn (hi : s.Inv A) (hc : c ∈ A) {p : CallPc}
    (hbusy : p.busy = (s.pc c).busy) (hcounted : p.counted = (s.pc c).counted)
    (hbytes : ∀ item, p.carried = some item → item.length = s.q.itemSize.toNat) :
    HostSys.Inv A { s with pc := s.goto c p } :=
  hi.goto hc hi.shaped rfl rfl (by rw [hbusy]) (by rw [hcounted]) hbytes hi.order

theorem HostSys.Inv.send (hi : s.Inv A) (hc : c ∈ A) : (s.apply (.send c item)).Inv A := by
  simp only [HostSys.apply]
  split
  · next hpc =>
    split_ifs with hlen
    · refine hi.turn hc (by rw [hpc]; rfl) (by rw [hpc]; rfl) ?_
      rintro _ ⟨⟩
      exact hlen
    · exact hi
  · exact hi

theorem HostSys.Inv.recv (hi : s.Inv A) (hc : c ∈ A) : (s.apply (.recv c)).Inv A := by
  simp only [HostSys.apply]
  split
  · next hpc =>
    exact hi.turn hc (by rw [hpc]; rfl) (by rw [hpc]; rfl) (by rintro _ ⟨⟩)
  · exact hi

/-- A wait takes its place from the semaphore to the call. -/
theorem HostSys.Inv.wait (hi : s.Inv A) (hc : c ∈ A) : (s.apply (.wait c)).Inv A := by
  simp only [HostSys.apply]
  split
  · next item hpc =>
    split_ifs with hspace
    · refine hi.goto hc (hi.shaped.recount _ _) rfl rfl ?_ ?_ ?_ hi.order
      · simp only [hpc, CallPc.busy, Bool.toNat_true, Bool.toNat_false]
        omega
      · rw [hpc]; rfl
      · rintro _ ⟨⟩
        exact hi.bytes c item (by rw [hpc]; rfl)
    · exact hi
  · next hpc =>
    split_ifs with hitems
    · refine hi.goto hc (hi.shaped.recount _ _) rfl rfl ?_ ?_ ?_ hi.order
      · simp only [hpc, CallPc.busy, Bool.toNat_true, Bool.toNat_false]
        omega
      · simp only [hpc, CallPc.counted, Bool.toNat_true, Bool.toNat_false]
        omega
      · rintro _ ⟨⟩
    · exact hi
  · exact hi

theorem HostSys.Inv.timeout (hi : s.Inv A) (hc : c ∈ A) : (s.apply (.timeout c)).Inv A := by
  simp only [HostSys.apply]
  split
  · next hpc =>
    exact hi.turn hc (by rw [hpc]; rfl) (by rw [hpc]; rfl) (by rintro _ ⟨⟩)
  · next hpc =>
    exact hi.turn hc (by rw [hpc]; rfl) (by rw [hpc]; rfl) (by rintro _ ⟨⟩)
  · exact hi

/-- The mutex section moves one item, for which the wait has made sure of a place or an item. -/
theorem HostSys.Inv.critical (hi : s.Inv A) (hc : c ∈ A) : (s.apply (.critical c)).Inv A := by
  simp only [HostSys.apply]
  split
  · next item hpc =>
    have hroom := hi.room hc hpc
    have hitem := hi.bytes c item (by rw [hpc]; rfl)
    refine hi.goto hc (hi.shaped.put hroom) rfl rfl ?_ ?_ ?_ ?_
    · rw [hpc]; rfl
    · rw [hpc, count_put hroom]
      simp only [HostQueue.put, CallPc.counted, Bool.toNat_true, Bool.toNat_false]
      omega
    · rintro _ ⟨⟩
    · rw [contents_put hi.shaped hroom hitem, ← List.append_assoc, ← hi.order]
  · next hpc =>
    have hcount := hi.nonempty hc hpc
    refine hi.goto hc (hi.shaped.take hcount) rfl rfl ?_ ?_ ?_ ?_
    · rw [hpc]; rfl
    · rw [hpc, count_take hcount]
      simp only [HostQueue.take, CallPc.counted, Bool.toNat_true, Bool.toNat_false]
      omega
    · rintro _ ⟨⟩
    · rw [hi.order, contents_take hi.shaped hcount]
      simp [HostQueue.take]
  · exact hi

/-- A release hands the place of the call to the other semaphore. -/
theorem HostSys.Inv.release (hi : s.Inv A) (hc : c ∈ A) : (s.apply (.release c)).Inv A := by
  simp only [HostSys.apply]
  split
  · next hpc =>
    have hmax := (hi.below hc (by rw [hpc]; rfl)).2
    refine hi.goto hc (hi.shaped.recount _ _) rfl rfl ?_ ?_ ?_ hi.order
    · simp only [hpc, releaseSemaphore, if_pos hmax, CallPc.busy, Bool.toNat_true,
        Bool.toNat_false]
      omega
    · simp only [hpc, releaseSemaphore, if_pos hmax, CallPc.counted, Bool.toNat_true,
        Bool.toNat_false]
      omega
    · rintro _ ⟨⟩
  · next hpc =>
    have hmax := (hi.below hc (by rw [hpc]; rfl)).1
    refine hi.goto hc (hi.shaped.recount _ _) rfl rfl ?_ ?_ ?_ hi.order
    · simp only [hpc, releaseSemaphore, if_pos hmax, CallPc.busy, Bool.toNat_true,
        Bool.toNat_false]
      omega
    · rw [hpc]; rfl
    · rintro _ ⟨⟩
  · exact hi

/-- Every step accounts for the places and the items. -/
theorem HostSys.Inv.step (hi : s.Inv A) {op : HostOp C} (hc : op.caller ∈ A) :
    (s.apply op).Inv A := by
  cases op with
  | send c item => exact hi.send hc
  | recv c => exact hi.recv hc
  | wait c => exact hi.wait hc
  | timeout c => exact hi.timeout hc
  | critical c => exact hi.critical hc
  | release c => exact hi.release hc

/-- Outside the mutex nothing moves. -/
theorem apply_kept {op : HostOp C} (hne : ∀ c, op ≠ .critical c) :
    (s.apply op).q.contents = s.q.contents ∧ (s.apply op).sent = s.sent ∧
      (s.apply op).received = s.received := by
  cases op with
  | critical c => exact absurd rfl (hne c)
  | send c item =>
    simp only [HostSys.apply]
    split
    · split_ifs <;> exact ⟨rfl, rfl, rfl⟩
    · exact ⟨rfl, rfl, rfl⟩
  | recv c =>
    simp only [HostSys.apply]
    split <;> exact ⟨rfl, rfl, rfl⟩
  | wait c =>
    simp only [HostSys.apply]
    split
    · split_ifs <;> exact ⟨rfl, rfl, rfl⟩
    · split_ifs <;> exact ⟨rfl, rfl, rfl⟩
    · exact ⟨rfl, rfl, rfl⟩
  | timeout c =>
    simp only [HostSys.apply]
    split <;> exact ⟨rfl, rfl, rfl⟩
  | release c =>
    simp only [HostSys.apply]
    split <;> exact ⟨rfl, rfl, rfl⟩

/-- A call that gives up has not touched the queue. -/
theorem apply_failed {op : HostOp C}
    (hfail : s.returns op = some .queueFull ∨ s.returns op = some .timeout) :
    (s.apply op).q = s.q := by
  cases op with
  | timeout c =>
    simp only [HostSys.apply]
    split <;> rfl
  | release c =>
    simp only [HostSys.returns] at hfail
    split at hfail <;> simp at hfail
  | send | recv | wait | critical => simp [HostSys.returns] at hfail

omit [DecidableEq C] in
theorem done_of_returns {op : HostOp C} (h : s.returns op = some .ok) :
    (s.pc op.caller).done = true := by
  cases op with
  | release c =>
    simp only [HostSys.returns] at h
    split at h
    · next hpc => rw [HostOp.caller, hpc]; rfl
    · next hpc => rw [HostOp.caller, hpc]; rfl
    · simp at h
  | timeout c =>
    simp only [HostSys.returns] at h
    split at h <;> simp at h
  | send | recv | wait | critical => simp [HostSys.returns] at h

theorem goto_done {p : CallPc} (hp : p.done = false) {c' : C}
    (h : (s.goto c p c').done = true) : s.goto c p c' = s.pc c' := by
  have hne : c' ≠ c := by
    rintro rfl
    rw [HostSys.goto, Function.update_self, hp] at h
    cases h
  exact Function.update_of_ne hne _ _

/-- Only its mutex section takes a call behind the mutex. -/
theorem apply_done {op : HostOp C} {c' : C} (h : ((s.apply op).pc c').done = true) :
    (s.apply op).pc c' = s.pc c' ∨ op = .critical c' := by
  cases op with
  | send c item =>
    revert h
    simp only [HostSys.apply]
    split
    · split_ifs
      · exact fun h => Or.inl (goto_done rfl h)
      · exact fun _ => Or.inl rfl
    · exact fun _ => Or.inl rfl
  | recv c =>
    revert h
    simp only [HostSys.apply]
    split
    · exact fun h => Or.inl (goto_done rfl h)
    · exact fun _ => Or.inl rfl
  | wait c =>
    revert h
    simp only [HostSys.apply]
    split
    · split_ifs
      · exact fun h => Or.inl (goto_done rfl h)
      · exact fun _ => Or.inl rfl
    · split_ifs
      · exact fun h => Or.inl (goto_done rfl h)
      · exact fun _ => Or.inl rfl
    · exact fun _ => Or.inl rfl
  | timeout c =>
    revert h
    simp only [HostSys.apply]
    split
    · exact fun h => Or.inl (goto_done rfl h)
    · exact fun h => Or.inl (goto_done rfl h)
    · exact fun _ => Or.inl rfl
  | critical c =>
    by_cases hc : c' = c
    · exact Or.inr (by rw [hc])
    · left
      simp only [HostSys.apply]
      split
      · exact Function.update_of_ne hc _ _
      · exact Function.update_of_ne hc _ _
      · rfl
  | release c =>
    revert h
    simp only [HostSys.apply]
    split
    · exact fun h => Or.inl (goto_done rfl h)
    · exact fun h => Or.inl (goto_done rfl h)
    · exact fun _ => Or.inl rfl

/-- Under the invariant a step keeps the order. -/
theorem HostSys.Inv.fifo (hi : s.Inv A) {op : HostOp C} (hc : op.caller ∈ A) :
    HostSys.Fifo s op (s.apply op) := by
  have hi' := hi.step hc
  have hlen : (s.apply op).q.contents.length = (s.apply op).q.count.toNat := length_window
  refine ⟨hi'.order, ⟨hlen.symm, hlen ▸ hi'.bound⟩, ?_, ?_, apply_kept, apply_failed,
    done_of_returns, fun _ => apply_done⟩
  · rintro c item rfl hpc
    have hroom := hi.room hc hpc
    have hitem := hi.bytes c item (by rw [hpc]; rfl)
    have happ : s.apply (.critical c) =
        ⟨s.q.put item, s.goto c .sendOut, s.sent ++ [item], s.received⟩ := by
      simp only [HostSys.apply, hpc]
    rw [happ]
    exact ⟨hroom, by simp [HostSys.goto], contents_put hi.shaped hroom hitem, rfl, rfl⟩
  · rintro c rfl hpc
    have hcount := hi.nonempty hc hpc
    have happ : s.apply (.critical c) =
        ⟨s.q.take.2, s.goto c (.recvOut s.q.fetch), s.sent, s.received ++ [s.q.fetch]⟩ := by
      simp only [HostSys.apply, hpc, HostQueue.take]
    rw [happ]
    exact ⟨hcount, s.q.fetch, by simp [HostSys.goto],
      contents_take hi.shaped hcount, rfl, rfl⟩

/-- Every interleaving of sends and receptions, with any waits ending in a timeout, keeps a created
queue first-in first-out and bounded. -/
theorem host_queue_fifo (length itemSize : UInt32) (made : Bool) (q : HostQueue)
    (hq : iotQueueCreate length itemSize made = (.ok, some q))
    (hfits : length.toNat * itemSize.toNat < 2 ^ 32) (ops : List (HostOp C)) :
    ∀ e ∈ trace HostSys.apply (HostSys.start q) ops, HostSys.Fifo e.1 e.2.1 e.2.2 := by
  let A : Finset C := (ops.map HostOp.caller).toFinset
  have hcallers : ∀ e ∈ trace HostSys.apply (HostSys.start q) ops, e.2.1.caller ∈ A :=
    fun e he => List.mem_toFinset.mpr (List.mem_map_of_mem (action_mem he))
  have hinv := (run_trace HostSys.apply (HostSys.start q) ops).invariant
    (I := HostSys.Inv A) (C := fun _ op _ => op.caller ∈ A)
    (by rintro s op _ hi rfl hc; exact hi.step hc) (created_inv hq hfits A) hcallers
  intro e he
  rw [step_of_mem he]
  exact (hinv.2 e he).1.fifo (hcallers e he)

/-- Two threads send to a queue of two places, a third call waits in vain, and one is received. -/
theorem two_senders_fifo : ∃ q, iotQueueCreate 2 1 true = (.ok, some q) ∧
    ∀ e ∈ trace HostSys.apply (HostSys.start q) [.send false [7], .send true [8], .wait true,
      .wait false, .critical true, .critical false, .release true, .send true [9], .timeout true,
      .recv true, .wait true, .critical true, .release true, .release false],
      HostSys.Fifo e.1 e.2.1 e.2.2 :=
  ⟨_, rfl, host_queue_fifo 2 1 true _ rfl (by decide) _⟩

end

end IotPlatform
