import RequestLog.Proofs.Queue
import RequestLog.Proofs.Devices

/-! The pace of an output: how many bytes one call takes, from how many slices, and how many calls
are interrupted first. A drain does not depend on it: an output takes what it has room for and then
ends as it must, in however many calls. -/

namespace RequestLog

/-- What outputs come to when it is left open in how many calls. -/
structure Pace (σ : Type) where
  /-- The state without its pace, and without a trace of the calls that were made. -/
  plain : σ → σ
  /-- The state once it has taken some bytes. -/
  feed : Bytes → σ → σ
  /-- What becomes of so many bytes: how many are taken, and how that ends. -/
  fate : σ → Nat → Nat × Except IoError Unit

namespace Pace

variable {σ : Type}

/-- What is fed and what becomes of it do not depend on the pace. -/
structure Lawful (p : Pace σ) : Prop where
  fate_congr {s t : σ} (h : p.plain s = p.plain t) : p.fate s = p.fate t
  feed_congr {s t : σ} (bytes : Bytes) (h : p.plain s = p.plain t) :
    p.plain (p.feed bytes s) = p.plain (p.feed bytes t)
  feed_nil (s : σ) : p.plain (p.feed [] s) = p.plain s
  feed_feed (a b : Bytes) (s : σ) : p.plain (p.feed b (p.feed a s)) = p.plain (p.feed (a ++ b) s)
  fate_zero (s : σ) : p.fate s 0 = (0, .ok ())

/-- One call. It either makes no difference, or tells how all further bytes end, or takes the first
part of what is to be taken. -/
inductive Call (p : Pace σ) (s t : σ) (offer : Bytes) : WriteReply → Prop where
  | interrupted (ht : p.plain t = p.plain s) : Call p s t offer .interrupted
  | failed {cause : IoError} (ht : p.plain t = p.plain s)
      (hf : ∀ n, n ≠ 0 → p.fate s n = (0, .error cause)) : Call p s t offer (.failed cause)
  | tookNone (ht : p.plain t = p.plain s)
      (hf : ∀ n, n ≠ 0 → p.fate s n = (0, .error .writeZero)) : Call p s t offer (.took 0)
  | took {count : Nat} (hle : count + 1 ≤ offer.length)
      (ht : p.plain t = p.plain (p.feed (offer.take (count + 1)) s))
      (hf : ∀ n, p.fate s (count + 1 + n) = (count + 1 + (p.fate t n).1, (p.fate t n).2)) :
    Call p s t offer (.took (count + 1))

end Pace

/-! ### One device -/

namespace Device

def plain (device : Device) : Device :=
  { device with
    chunk := none, vectored := true, interrupts := 0, taken := [device.content], calls := 0 }

/-- A device takes what it has room for, unless it takes nothing at all. -/
def fate (device : Device) (n : Nat) : Nat × Except IoError Unit :=
  if n = 0 then (0, .ok ())
  else
    match device.fail with
    | some text => (0, .error (.failed text))
    | none =>
      if device.zero then (0, .error .writeZero)
      else
        match device.budget with
        | none => (n, .ok ())
        | some budget =>
          if n ≤ budget then (n, .ok ()) else (budget, .error (.failed "device full"))

def pace : Pace Device := ⟨plain, fun bytes device => device.take bytes, fate⟩

variable {device : Device} {slices : List Bytes}

@[simp] theorem plain_plain (device : Device) : device.plain.plain = device.plain := by
  simp [plain, content]

@[simp] theorem content_plain (device : Device) : device.plain.content = device.content := by
  simp [content, plain]

theorem plain_take_plain (device : Device) (bytes : Bytes) :
    (device.plain.take bytes).plain = (device.take bytes).plain := by
  simp [plain, take, content]

theorem pace_lawful : pace.Lawful where
  fate_congr := by
    intro device device' h
    have hplain (device : Device) : device.plain.fate = device.fate := rfl
    change device.fate = device'.fate
    rw [← hplain device, show device.plain = device'.plain from h, hplain device']
  feed_congr := by
    intro device device' bytes h
    change (device.take bytes).plain = (device'.take bytes).plain
    rw [← plain_take_plain, show device.plain = device'.plain from h, plain_take_plain]
  feed_nil := by
    intro device
    simp [pace, plain, take, content]
  feed_feed := by
    intro a b device
    have hbudget : (device.budget.map (· - a.length)).map (· - b.length)
        = device.budget.map (· - (a ++ b).length) := by
      cases device.budget with
      | none => rfl
      | some budget => simp [Nat.sub_sub]
    simp [pace, plain, take, hbudget, content]
  fate_zero := fun _ => rfl

theorem share_pos (hc : device.chunk ≠ some 0) (hb : device.budget ≠ some 0) {n : Nat}
    (hn : 0 < n) : 0 < device.share n := by
  have hatMost {limit : Option Nat} (hl : limit ≠ some 0) {n : Nat} (hn : 0 < n) :
      0 < atMost limit n := by
    cases limit with
    | none => exact hn
    | some limit =>
      have : limit ≠ 0 := fun h => hl (h ▸ rfl)
      simp only [atMost]
      omega
  exact hatMost hb (hatMost hc hn)

theorem share_le_budget {budget : Nat} (hb : device.budget = some budget) (n : Nat) :
    device.share n ≤ budget := by
  simp only [share, hb, atMost]
  exact Nat.min_le_left _ _

theorem offered_ne_nil (hs : ∀ slice ∈ slices, slice ≠ []) (hne : slices ≠ []) :
    device.offered slices ≠ [] := by
  obtain ⟨slice, rest, rfl⟩ := List.exists_cons_of_ne_nil hne
  have hslice : slice ≠ [] := hs slice List.mem_cons_self
  unfold offered
  split <;> simp [hslice]

theorem fate_of_fail {text : String} (h : device.fail = some text) {n : Nat} (hn : n ≠ 0) :
    device.fate n = (0, .error (.failed text)) := by
  simp [fate, hn, h]

theorem fate_of_zero (hf : device.fail = none) (hz : device.zero = true) {n : Nat} (hn : n ≠ 0) :
    device.fate n = (0, .error .writeZero) := by
  simp [fate, hn, hf, hz]

theorem fate_of_full (hf : device.fail = none) (hz : device.zero = false)
    (hb : device.budget = some 0) {n : Nat} (hn : n ≠ 0) :
    device.fate n = (0, .error (.failed "device full")) := by
  simp [fate, hn, hf, hz, hb]

/-- A device that took a part has room for so much less. -/
theorem fate_take (hf : device.fail = none) (hz : device.zero = false) {bytes : Bytes}
    (hne : bytes.length ≠ 0)
    (hb : ∀ budget, device.budget = some budget → bytes.length ≤ budget) (n : Nat) :
    device.fate (bytes.length + n)
      = (bytes.length + ((device.take bytes).fate n).1, ((device.take bytes).fate n).2) := by
  cases hbudget : device.budget with
  | none => by_cases hn : n = 0 <;> simp [fate, take, hf, hz, hbudget, hne, hn]
  | some budget =>
    have hle := hb budget hbudget
    rcases Nat.eq_zero_or_pos n with rfl | hn
    · simp [fate, hf, hz, hbudget, hne, hle]
    · have hn' : n ≠ 0 := Nat.ne_of_gt hn
      by_cases hroom : bytes.length + n ≤ budget
      · have hroom' : n ≤ budget - bytes.length := by omega
        simp [fate, take, hf, hz, hbudget, hn', hroom, hroom']
      · have hroom' : ¬ n ≤ budget - bytes.length := by omega
        have hsum : bytes.length + (budget - bytes.length) = budget := by omega
        simp [fate, take, hf, hz, hbudget, hn', hroom, hroom', hsum]

theorem answer_call (hc : device.chunk ≠ some 0) (hs : ∀ slice ∈ slices, slice ≠ [])
    (hne : slices ≠ []) :
    pace.Call device (answer slices device).2 slices.flatten (answer slices device).1 := by
  unfold answer
  split
  · rename_i text hf
    exact .failed rfl fun n hn => fate_of_fail hf hn
  rename_i hf
  split
  · rename_i hz
    exact .tookNone rfl fun n hn => fate_of_zero hf hz hn
  rename_i hz
  split
  · rename_i hb
    exact .failed rfl fun n hn => fate_of_full hf (by simpa using hz) hb hn
  rename_i hb
  -- what is left takes at least one byte, since some are offered
  have hpos : 0 < device.share (device.offered slices).length :=
    share_pos hc hb (List.length_pos_iff.2 (offered_ne_nil hs hne))
  obtain ⟨count, hcount⟩ := Nat.exists_eq_add_one.2 hpos
  have hle : count + 1 ≤ (device.offered slices).length := hcount ▸ device.share_le _
  have hprefix := device.offered_prefix slices
  have htake : (device.offered slices).take (count + 1) = slices.flatten.take (count + 1) := by
    obtain ⟨rest, hrest⟩ := hprefix
    rw [← hrest, List.take_append_of_le_length hle]
  have hlen : (slices.flatten.take (count + 1)).length = count + 1 :=
    List.length_take_of_le (hle.trans hprefix.length_le)
  simp only [hcount, htake]
  refine .took (hle.trans hprefix.length_le) rfl fun n => ?_
  have hroom (budget : Nat) (hbudget : device.budget = some budget) :
      (slices.flatten.take (count + 1)).length ≤ budget := by
    rw [hlen, ← hcount]
    exact share_le_budget hbudget _
  have hfate := fate_take hf (by simpa using hz) (by omega) hroom n
  rwa [hlen] at hfate

theorem write_call (hc : device.chunk ≠ some 0) (hs : ∀ slice ∈ slices, slice ≠ [])
    (hne : slices ≠ []) :
    pace.Call device (write slices device).2 slices.flatten (write slices device).1 := by
  unfold write
  split
  · exact .interrupted rfl
  · -- the count of calls is nothing that a call depends on
    have hcall : pace.Call { device with calls := device.calls + 1 } _ _ _ := answer_call hc hs hne
    generalize answer slices { device with calls := device.calls + 1 } = reply at hcall
    obtain ⟨reply, after⟩ := reply
    cases hcall with
    | interrupted ht => exact .interrupted ht
    | failed ht hf => exact .failed ht hf
    | tookNone ht hf => exact .tookNone ht hf
    | took hle ht hf => exact .took hle ht hf

@[simp] theorem write_chunk (slices : List Bytes) (device : Device) :
    (write slices device).2.chunk = device.chunk := by
  unfold write answer take
  repeat' split
  all_goals rfl

end Device

/-! ### A whole drain -/

namespace Sink.Pending

variable {σ : Type} {o : Outputs σ} {valid : σ → Prop} {p : Pace σ}

/-- A drain is one take of what is to become of the queue, however its calls divide it. -/
theorem drain_eq_fate {handle : Handle} (hl : p.Lawful)
    (hcall : ∀ lines s, valid s → (∀ line ∈ lines, line ≠ []) → lines ≠ [] →
      valid (o.write handle lines s).2 ∧
        p.Call s (o.write handle lines s).2 lines.flatten (o.write handle lines s).1)
    (pending : Pending) (counters : Counters) (s : σ) (hs : valid s)
    (hp : ∀ line ∈ pending.lines, line ≠ []) :
    let d := drain o handle pending counters s
    let fate := p.fate s pending.lines.flatten.length
    valid d.outputs ∧ d.result = fate.2 ∧
      (d.pending, d.counters) = pending.consume fate.1 counters ∧
      p.plain d.outputs = p.plain (p.feed (pending.lines.flatten.take fate.1) s) := by
  have hcall' {pending : Pending} {s t : σ} {reply : WriteReply} (hs : valid s)
      (hp : ∀ line ∈ pending.lines, line ≠ []) (he : pending.lines ≠ [])
      (hw : o.write handle (pending.lines.take batch) s = (reply, t)) :
      valid t ∧ p.Call s t (pending.lines.take batch).flatten reply := by
    have := hcall (pending.lines.take batch) s hs (fun line h => hp line (List.mem_of_mem_take h))
      (by simp [batch, he])
    rwa [hw] at this
  have hlen {pending : Pending} (hp : ∀ line ∈ pending.lines, line ≠ [])
      (he : pending.lines ≠ []) : pending.lines.flatten.length ≠ 0 := by
    obtain ⟨line, lines, hcons⟩ := List.exists_cons_of_ne_nil he
    have := hp line (hcons ▸ List.mem_cons_self)
    simp [hcons, this]
  fun_induction drain o handle pending counters s with
  | case1 pending counters s he =>
    refine ⟨hs, ?_, ?_, ?_⟩ <;> simp [he, hl.fate_zero, hl.feed_nil, consume_zero]
  | case2 pending counters s he t hw =>
    obtain ⟨ht, hc⟩ := hcall' hs hp he hw
    cases hc with
    | tookNone ht' hf =>
      simp only [hf _ (hlen hp he), consume_zero, List.take_zero, hl.feed_nil]
      exact ⟨ht, trivial, trivial, ht'⟩
  | case3 pending counters s he n t hw after ih =>
    obtain ⟨ht, hc⟩ := hcall' hs hp he hw
    cases hc with
    | took hle ht' hf =>
      obtain ⟨hle', hbytes⟩ := take_batch hle
      have hrest : after.1.lines.flatten = pending.lines.flatten.drop (n + 1) :=
        flatten_dropBytes (n + 1) pending.lines
      have hfate := hf (pending.lines.flatten.length - (n + 1))
      rw [show n + 1 + (pending.lines.flatten.length - (n + 1)) = pending.lines.flatten.length by
        omega] at hfate
      obtain ⟨hvalid, hresult, hconsume, hplain⟩ := ih ht (dropBytes_ne_nil hp _)
      rw [hrest, List.length_drop] at hresult hconsume hplain
      refine ⟨hvalid, ?_, ?_, ?_⟩
      · rw [hresult, hfate]
      · rw [hconsume, hfate, consume_consume]
      · rw [hplain, hl.feed_congr _ ht', hl.feed_feed, hbytes, hfate, ← List.take_add]
  | case4 pending counters s he t hw ih =>
    obtain ⟨ht, hc⟩ := hcall' hs hp he hw
    cases hc with
    | interrupted ht' =>
      obtain ⟨hvalid, hresult, hconsume, hplain⟩ := ih ht hp
      rw [hl.fate_congr ht'] at hresult hconsume hplain
      exact ⟨hvalid, hresult, hconsume, hplain.trans (hl.feed_congr _ ht')⟩
  | case5 pending counters s he cause t hw =>
    obtain ⟨ht, hc⟩ := hcall' hs hp he hw
    cases hc with
    | failed ht' hf =>
      simp only [hf _ (hlen hp he), consume_zero, List.take_zero, hl.feed_nil]
      exact ⟨ht, trivial, trivial, ht'⟩

end Sink.Pending

/-! ### The devices of a world -/

namespace World

def plain (world : World) : World := { world with devices := world.devices.map Device.plain }

def device? (world : World) (handle : Handle) : Option (Nat × Device) :=
  match world.backing? handle with
  | some (.device index) => (world.devices[index]?).map (index, ·)
  | _ => none

def feed (handle : Handle) (bytes : Bytes) (world : World) : World :=
  match world.device? handle with
  | some (index, found) => (world.setDevice index (found.take bytes)).addTaken handle bytes.length
  | none => world

def fate (handle : Handle) (world : World) (n : Nat) : Nat × Except IoError Unit :=
  match world.device? handle with
  | some (_, found) => found.fate n
  | none => (0, if n = 0 then .ok () else .error .invalidArgument)

def pace (handle : Handle) : Pace World := ⟨plain, feed handle, fate handle⟩

/-- All handles are on devices, and no device refuses to take at least one byte at a time. -/
structure Paced (world : World) : Prop where
  backed : ∀ backing ∈ world.backings, ∃ index, backing = .device index
  chunk : ∀ device ∈ world.devices, device.chunk ≠ some 0

variable {world world' : World} {handle : Handle}

@[simp] theorem plain_plain (world : World) : world.plain.plain = world.plain := by
  simp [plain]

theorem device?_plain (world : World) (handle : Handle) :
    world.plain.device? handle = (world.device? handle).map (Prod.map id Device.plain) := by
  simp only [device?, plain, backing?]
  split
  · rename_i index _
    cases h : world.devices[index]? <;> simp [h]
  · rfl

theorem device?_eq_some {index : Nat} {found : Device} :
    world.device? handle = some (index, found) ↔
      world.backing? handle = some (.device index) ∧ world.devices[index]? = some found := by
  unfold device?
  split
  · rename_i i hb
    simp only [hb, Option.map_eq_some_iff, Prod.mk.injEq, Option.some.injEq, Backing.device.injEq]
    constructor
    · rintro ⟨_, hd, rfl, rfl⟩
      exact ⟨rfl, hd⟩
    · rintro ⟨rfl, hd⟩
      exact ⟨found, hd, rfl, rfl⟩
  · rename_i hb
    exact iff_of_false nofun fun h => hb index h.1

@[simp] theorem plain_setDevice (world : World) (index : Nat) (device : Device) :
    (world.setDevice index device).plain = world.plain.setDevice index device.plain := by
  simp [plain, setDevice, List.map_set]

@[simp] theorem plain_addTaken (world : World) (handle : Handle) (count : Nat) :
    (world.addTaken handle count).plain = world.plain.addTaken handle count := rfl

theorem setDevice_eq_self {index : Nat} {found : Device} (h : world.devices[index]? = some found) :
    world.setDevice index found = world := by
  obtain ⟨hi, rfl⟩ := List.getElem?_eq_some_iff.1 h
  simp [setDevice]

theorem addTaken_zero (world : World) (handle : Handle) : world.addTaken handle 0 = world := by
  simp only [addTaken, Nat.add_zero]
  rw [show (fun o : OpenOutput => ({ o with taken := o.taken } : OpenOutput)) = id from rfl,
    List.modify_id]

theorem addTaken_addTaken (world : World) (handle : Handle) (a b : Nat) :
    (world.addTaken handle a).addTaken handle b = world.addTaken handle (a + b) := by
  simp only [addTaken, List.modify_modify_eq, Function.comp_def, Nat.add_assoc]

theorem setDevice_addTaken (world : World) (handle : Handle) (count index : Nat) (device : Device) :
    (world.addTaken handle count).setDevice index device
      = (world.setDevice index device).addTaken handle count := rfl

theorem setDevice_setDevice (world : World) (index : Nat) (device device' : Device) :
    (world.setDevice index device).setDevice index device' = world.setDevice index device' := by
  simp [setDevice]

theorem feed_of_some {index : Nat} {found : Device} (h : world.device? handle = some (index, found))
    (bytes : Bytes) : world.feed handle bytes
      = (world.setDevice index (found.take bytes)).addTaken handle bytes.length := by
  simp [feed, h]

theorem feed_of_none (h : world.device? handle = none) (bytes : Bytes) :
    world.feed handle bytes = world := by
  simp [feed, h]

theorem device?_replaced {index : Nat} {found : Device}
    (h : world.device? handle = some (index, found)) (changed : Device) (count : Nat) :
    ((world.setDevice index changed).addTaken handle count).device? handle
      = some (index, changed) := by
  obtain ⟨hb, hd⟩ := device?_eq_some.1 h
  have hi := (List.getElem?_eq_some_iff.1 hd).1
  rw [device?_eq_some, backing?_addTaken]
  exact ⟨hb, by simp [addTaken, setDevice, hi]⟩

theorem device?_feed {index : Nat} {found : Device}
    (h : world.device? handle = some (index, found)) (bytes : Bytes) :
    (world.feed handle bytes).device? handle = some (index, found.take bytes) := by
  rw [feed_of_some h]
  exact device?_replaced h _ _

theorem fate_of_some {index : Nat} {found : Device}
    (h : world.device? handle = some (index, found)) :
    world.fate handle = found.fate := by
  funext n
  simp [fate, h]

theorem plain_feed_plain (world : World) (handle : Handle) (bytes : Bytes) :
    (world.plain.feed handle bytes).plain = (world.feed handle bytes).plain := by
  have hplain := device?_plain world handle
  cases h : world.device? handle with
  | none =>
    rw [h] at hplain
    rw [feed_of_none h, feed_of_none hplain, plain_plain]
  | some place =>
    rw [h] at hplain
    rw [feed_of_some h, feed_of_some hplain]
    simp [Device.plain_take_plain]

theorem fate_plain (world : World) (handle : Handle) :
    world.plain.fate handle = world.fate handle := by
  funext n
  simp only [fate, device?_plain]
  cases world.device? handle <;> rfl

theorem pace_lawful (handle : Handle) : (pace handle).Lawful where
  fate_congr := by
    intro world world' h
    change world.fate handle = world'.fate handle
    rw [← fate_plain world, show world.plain = world'.plain from h, fate_plain]
  feed_congr := by
    intro world world' bytes h
    change (world.feed handle bytes).plain = (world'.feed handle bytes).plain
    rw [← plain_feed_plain, show world.plain = world'.plain from h, plain_feed_plain]
  feed_nil := by
    intro world
    change (world.feed handle []).plain = world.plain
    cases h : world.device? handle with
    | none => rw [feed_of_none h]
    | some place =>
      rw [feed_of_some h, plain_addTaken, plain_setDevice, List.length_nil, addTaken_zero,
        show (place.2.take []).plain = place.2.plain from Device.pace_lawful.feed_nil place.2,
        ← plain_setDevice, setDevice_eq_self (device?_eq_some.1 h).2]
  feed_feed := by
    intro a b world
    change ((world.feed handle a).feed handle b).plain = (world.feed handle (a ++ b)).plain
    cases h : world.device? handle with
    | none => rw [feed_of_none h, feed_of_none h, feed_of_none h]
    | some place =>
      rw [feed_of_some (device?_feed h a), feed_of_some h, feed_of_some h, setDevice_addTaken,
        setDevice_setDevice, addTaken_addTaken, List.length_append, plain_addTaken, plain_addTaken,
        plain_setDevice, plain_setDevice]
      exact congrArg (fun d => (world.plain.setDevice place.1 d).addTaken handle _)
        (Device.pace_lawful.feed_feed a b place.2)
  fate_zero := by
    intro world
    change world.fate handle 0 = (0, .ok ())
    unfold fate
    split <;> rfl

/-- A call on a handle is a call on its device. -/
theorem write_of_some {index : Nat} {found : Device}
    (h : world.device? handle = some (index, found)) (slices : List Bytes) :
    world.write handle slices = ((found.write slices).1,
      match (found.write slices).1 with
      | .took count => (world.setDevice index (found.write slices).2).addTaken handle count
      | _ => world.setDevice index (found.write slices).2) := by
  obtain ⟨hb, hd⟩ := device?_eq_some.1 h
  simp only [write, hb, writeTo, hd]
  cases (found.write slices).1 <;> rfl

theorem Paced.write_of_none (hw : Paced world) (h : world.device? handle = none)
    (slices : List Bytes) : world.write handle slices = (.failed .invalidArgument, world) := by
  unfold World.write
  cases hb : world.backing? handle with
  | none => rfl
  | some backing =>
    obtain ⟨index, rfl⟩ := hw.backed backing (List.mem_of_getElem? (backing?_eq world handle ▸ hb))
    have hd : world.devices[index]? = none := by simpa [device?, hb] using h
    simp [writeTo, hd]

theorem Paced.setDevice (hw : Paced world) {index : Nat} {device : Device}
    (hd : device.chunk ≠ some 0) : Paced (world.setDevice index device) where
  backed := hw.backed
  chunk := by
    intro device' hmem
    rcases List.mem_or_eq_of_mem_set hmem with hmem | rfl
    · exact hw.chunk device' hmem
    · exact hd

theorem Paced.addTaken (hw : Paced world) (handle : Handle) (count : Nat) :
    Paced (world.addTaken handle count) where
  backed := by
    rw [backings_addTaken]
    exact hw.backed
  chunk := hw.chunk

theorem Paced.write_call (hw : Paced world) (handle : Handle) {slices : List Bytes}
    (hs : ∀ slice ∈ slices, slice ≠ []) (hne : slices ≠ []) :
    Paced (world.write handle slices).2 ∧
      (pace handle).Call world (world.write handle slices).2 slices.flatten
        (world.write handle slices).1 := by
  cases h : world.device? handle with
  | none =>
    rw [hw.write_of_none h]
    exact ⟨hw, .failed rfl fun n hn => by simp [pace, fate, h, hn]⟩
  | some place =>
    obtain ⟨index, found⟩ := place
    have hd := (device?_eq_some.1 h).2
    have hchunk := hw.chunk found (List.mem_of_getElem? hd)
    have hset : Paced (world.setDevice index (found.write slices).2) :=
      hw.setDevice (by simpa using hchunk)
    have hfate : (pace handle).fate world = found.fate := fate_of_some h
    -- a device that is the same but for its pace leaves a world that is
    have hsame (ht : (found.write slices).2.plain = found.plain) :
        (world.setDevice index (found.write slices).2).plain = world.plain := by
      rw [plain_setDevice, ht, ← plain_setDevice, setDevice_eq_self hd]
    rw [write_of_some h]
    have hcall := Device.write_call hchunk hs hne
    generalize hreply : (found.write slices).1 = reply at hcall
    cases hcall with
    | interrupted ht => exact ⟨hset, .interrupted (hsame ht)⟩
    | failed ht hf => exact ⟨hset, .failed (hsame ht) (hfate ▸ hf)⟩
    | tookNone ht hf =>
      refine ⟨hset.addTaken handle 0, .tookNone ?_ (hfate ▸ hf)⟩
      have hzero := congrArg World.plain
        (addTaken_zero (world.setDevice index (found.write slices).2) handle)
      exact hzero.trans (hsame ht)
    | @took count hle ht hf =>
      refine ⟨hset.addTaken handle _, .took hle ?_ ?_⟩
      · change ((world.setDevice index (found.write slices).2).addTaken handle (count + 1)).plain
          = (world.feed handle _).plain
        rw [feed_of_some h, List.length_take_of_le hle]
        simp only [plain_addTaken, plain_setDevice]
        exact congrArg (fun d => (world.plain.setDevice index d).addTaken handle (count + 1)) ht
      · have hfate' : (pace handle).fate
            ((world.setDevice index (found.write slices).2).addTaken handle (count + 1))
            = (found.write slices).2.fate := fate_of_some (device?_replaced h _ _)
        simp only [hfate, hfate']
        exact hf

/-- What a drain does to devices is told by their room and their failures alone. -/
theorem Paced.drain_eq_fate (hw : Paced world) (handle : Handle) {pending : Sink.Pending}
    (hp : ∀ line ∈ pending.lines, line ≠ []) (counters : Sink.Counters) :
    let d := pending.drain deviceOutputs handle counters world
    let fate := world.fate handle pending.lines.flatten.length
    Paced d.outputs ∧ d.result = fate.2 ∧
      (d.pending, d.counters) = pending.consume fate.1 counters ∧
      d.outputs.plain = (world.feed handle (pending.lines.flatten.take fate.1)).plain := by
  have hcall (lines : List Bytes) (world : World) (hw : Paced world)
      (hs : ∀ line ∈ lines, line ≠ []) (hne : lines ≠ []) := hw.write_call handle hs hne
  exact Sink.Pending.drain_eq_fate (pace_lawful handle) hcall pending counters world hw hp

end World

end RequestLog
