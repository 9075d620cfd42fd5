import RequestLog.Proofs.Contract
import RequestLog.Output.World
import Mathlib.Data.List.Infix

/-! Devices do as they promise. Full, slow, interrupted or broken, a device that answers with a
count has taken that many bytes and no others. -/

namespace RequestLog

namespace Device

variable {device device' : Device} {slices : List Bytes}

theorem content_take (device : Device) (bytes : Bytes) :
    (device.take bytes).content = device.content ++ bytes := by
  simp [content, take]

theorem atMost_le (limit : Option Nat) (n : Nat) : atMost limit n ≤ n := by
  cases limit with
  | none => exact Nat.le_refl n
  | some limit => exact Nat.min_le_right limit n

theorem share_le (device : Device) (n : Nat) : device.share n ≤ n :=
  (atMost_le _ _).trans (atMost_le _ _)

/-- The first slice that is not empty begins the offer. -/
theorem find?_prefix_flatten (slices : List Bytes) :
    (slices.find? (!·.isEmpty)).getD [] <+: slices.flatten := by
  induction slices with
  | nil => simp
  | cons slice slices ih =>
    cases slice with
    | nil => simpa using ih
    | cons b slice => simp

theorem offered_prefix (device : Device) (slices : List Bytes) :
    device.offered slices <+: slices.flatten := by
  unfold offered
  split
  · exact List.prefix_refl _
  · exact find?_prefix_flatten slices

theorem answer_took {n : Nat} (h : answer slices device = (.took n, device')) :
    n ≤ slices.flatten.length ∧ device'.content = device.content ++ slices.flatten.take n := by
  unfold answer at h
  split at h
  · simp at h
  · split at h
    · obtain ⟨hn, rfl⟩ := Prod.mk.inj h
      obtain rfl : 0 = n := by simpa using hn
      simp
    · split at h
      · simp at h
      · obtain ⟨hn, rfl⟩ := Prod.mk.inj h
        obtain rfl : device.share (device.offered slices).length = n := by simpa using hn
        have hle := device.share_le (device.offered slices).length
        obtain ⟨rest, hrest⟩ := device.offered_prefix slices
        rw [content_take, ← hrest, List.take_append_of_le_length hle, List.length_append]
        exact ⟨by omega, rfl⟩

theorem answer_tookNone {reply : WriteReply} (h : answer slices device = (reply, device'))
    (hr : ∀ n, reply ≠ .took n) : device'.content = device.content := by
  unfold answer at h
  split at h
  · rw [← (Prod.mk.inj h).2]
  · split at h
    · exact absurd (Prod.mk.inj h).1.symm (hr 0)
    · split at h
      · rw [← (Prod.mk.inj h).2]
      · exact absurd (Prod.mk.inj h).1.symm (hr _)

theorem write_took {n : Nat} (h : device.write slices = (.took n, device')) :
    n ≤ slices.flatten.length ∧ device'.content = device.content ++ slices.flatten.take n := by
  unfold write at h
  split at h
  · simp at h
  · have := answer_took h
    exact this

theorem write_tookNone {reply : WriteReply} (h : device.write slices = (reply, device'))
    (hr : ∀ n, reply ≠ .took n) : device'.content = device.content := by
  unfold write at h
  split at h
  · rw [← (Prod.mk.inj h).2]
    rfl
  · have := answer_tookNone h hr
    exact this

end Device

namespace World

/-! ### Handles on devices -/

def backings (world : World) : List Backing := world.handles.map (·.backing)

theorem backing?_eq (world : World) (handle : Handle) :
    world.backing? handle = world.backings[handle]? := by
  simp [backing?, backings]

@[simp] theorem backings_addTaken (world : World) (handle : Handle) (count : Nat) :
    (world.addTaken handle count).backings = world.backings := by
  refine List.ext_getElem? fun i => ?_
  simp only [backings, addTaken, List.getElem?_map, List.getElem?_modify]
  split <;> cases world.handles[i]? <;> rfl

theorem backing?_addTaken (world : World) (handle : Handle) (count : Nat) :
    (world.addTaken handle count).backing? handle = world.backing? handle := by
  rw [backing?_eq, backings_addTaken, ← backing?_eq]

@[simp] theorem backings_addHandle (world : World) (backing : Backing) :
    (world.addHandle backing).2.backings = world.backings ++ [backing] := by
  simp [backings, addHandle]

def heldBy (world : World) : Backing → Bytes
  | .device index => ((world.devices[index]?).map Device.content).getD []
  | _ => []

/-- Every handle has a device of its own, and those to be handed out have taken nothing yet. -/
structure OnDevices (world : World) : Prop where
  backed : ∀ backing ∈ world.backings, ∃ index < world.used, backing = .device index
  nodup : world.backings.Nodup
  untouched : ∀ index, world.used ≤ index → world.heldBy (.device index) = []

theorem onDevices_of_unused {devices : List Device} (h : ∀ device ∈ devices, device.taken = []) :
    OnDevices { devices } where
  backed := by simp [backings]
  nodup := by simp [backings]
  untouched := by
    intro index _
    simp only [heldBy]
    cases hd : devices[index]? with
    | none => rfl
    | some device => simp [Device.content, h device (List.mem_of_getElem? hd)]

def deviceLedger (world : World) : Ledger :=
  world.backings.mapIdx fun handle backing => (handle, world.heldBy backing)

/-- Devices as outputs of a sink: what each has taken. -/
def deviceView : View World := ⟨OnDevices, deviceLedger⟩

theorem handles_deviceLedger (world : World) :
    world.deviceLedger.handles = List.range world.backings.length := by
  refine List.ext_getElem? fun i => ?_
  simp only [Ledger.handles, deviceLedger, List.getElem?_map, List.getElem?_mapIdx]
  by_cases h : i < world.backings.length <;> simp [h]

theorem heldBy_setDevice {world : World} {index : Nat} {found changed : Device}
    (hd : world.devices[index]? = some found) (backing : Backing) :
    (world.setDevice index changed).heldBy backing =
      if backing = .device index then changed.content else world.heldBy backing := by
  cases backing with
  | file number => rfl
  | special which => rfl
  | device i =>
    have hlt := (List.getElem?_eq_some_iff.1 hd).1
    by_cases h : i = index
    · subst h
      simp [heldBy, setDevice, hlt]
    · simp [heldBy, setDevice, h, List.getElem?_set_ne (Ne.symm h)]

/-- A device that takes more is seen as a handle that takes more. -/
theorem deviceLedger_setDevice {world : World} (hw : OnDevices world) {handle : Handle}
    {index : Nat} {found changed : Device} {more : Bytes}
    (hb : world.backings[handle]? = some (.device index))
    (hd : world.devices[index]? = some found)
    (hc : changed.content = found.content ++ more) :
    (world.setDevice index changed).deviceLedger = world.deviceLedger.credit handle more := by
  refine List.ext_getElem? fun i => ?_
  simp only [deviceLedger, Ledger.credit, List.getElem?_map, List.getElem?_mapIdx, Option.map_map]
  rw [show (world.setDevice index changed).backings = world.backings from rfl]
  cases hi : world.backings[i]? with
  | none => rfl
  | some backing =>
    simp only [Option.map_some, Function.comp_apply, heldBy_setDevice hd]
    by_cases h : i = handle
    · subst h
      obtain rfl : backing = .device index := Option.some.inj (hi.symm.trans hb)
      simp [hc, heldBy, hd]
    · -- no other handle is open on the same device
      have hne : backing ≠ .device index := by
        rintro rfl
        exact h ((List.getElem?_inj (List.getElem?_eq_some_iff.1 hi).1 hw.nodup).1
          (hi.trans hb.symm))
      simp [h, hne]

theorem OnDevices.setDevice {world : World} (hw : OnDevices world) {index : Nat}
    (hi : index < world.used) (device : Device) : OnDevices (world.setDevice index device) where
  backed := hw.backed
  nodup := hw.nodup
  untouched := by
    intro i hle
    have hne : index ≠ i := by
      rintro rfl
      exact absurd hi (Nat.not_lt.2 hle)
    have := hw.untouched i hle
    simpa [heldBy, World.setDevice, List.getElem?_set_ne hne] using this

theorem OnDevices.addTaken {world : World} (hw : OnDevices world) (handle : Handle) (count : Nat) :
    OnDevices (world.addTaken handle count) where
  backed := by
    rw [backings_addTaken]
    exact hw.backed
  nodup := by simpa using hw.nodup
  untouched := hw.untouched

@[simp] theorem deviceLedger_addTaken (world : World) (handle : Handle) (count : Nat) :
    (world.addTaken handle count).deviceLedger = world.deviceLedger := by
  rw [deviceLedger, backings_addTaken]
  rfl

/-- A call either finds no device and changes nothing, or is a call on the device of its handle. -/
theorem OnDevices.write {world t : World} (hw : OnDevices world) {handle : Handle}
    {slices : List Bytes} {reply : WriteReply} (h : world.write handle slices = (reply, t)) :
    (t = world ∧ ∀ n, reply ≠ .took n) ∨
      ∃ index found changed, world.backings[handle]? = some (.device index) ∧
        world.devices[index]? = some found ∧ found.write slices = (reply, changed) ∧
        OnDevices t ∧ t.deviceLedger = (world.setDevice index changed).deviceLedger := by
  unfold World.write at h
  cases hb : world.backing? handle with
  | none =>
    obtain ⟨rfl, rfl⟩ := Prod.mk.inj (by simpa [hb] using h)
    exact .inl ⟨rfl, by simp⟩
  | some backing =>
    rw [backing?_eq] at hb
    obtain ⟨index, hindex, rfl⟩ := hw.backed backing (List.mem_of_getElem? hb)
    rw [backing?_eq, hb] at h
    cases hd : world.devices[index]? with
    | none =>
      obtain ⟨rfl, rfl⟩ := Prod.mk.inj (by simpa [writeTo, hd] using h)
      exact .inl ⟨rfl, by simp⟩
    | some found =>
      rcases hf : found.write slices with ⟨reply', changed⟩
      have hset := hw.setDevice hindex changed
      simp only [writeTo, hd, hf] at h
      refine .inr ⟨index, found, changed, hb, hd, ?_⟩
      cases reply' with
      | took count =>
        obtain ⟨rfl, rfl⟩ := Prod.mk.inj h
        exact ⟨hf, hset.addTaken handle count, deviceLedger_addTaken _ handle count⟩
      | interrupted =>
        obtain ⟨rfl, rfl⟩ := Prod.mk.inj h
        exact ⟨hf, hset, rfl⟩
      | failed cause =>
        obtain ⟨rfl, rfl⟩ := Prod.mk.inj h
        exact ⟨hf, hset, rfl⟩

/-- The next device gets a handle. It was not behind a handle before, and has taken nothing yet. -/
theorem OnDevices.handOut {world : World} (hw : OnDevices world) :
    OnDevices ({ world with used := world.used + 1 }.addHandle (.device world.used)).2 ∧
      ({ world with used := world.used + 1 }.addHandle (.device world.used)).1
        = world.backings.length ∧
      ({ world with used := world.used + 1 }.addHandle (.device world.used)).2.deviceLedger
        = world.deviceLedger ++ [(world.backings.length, [])] := by
  have huntouched := hw.untouched world.used (Nat.le_refl _)
  have hfresh : Backing.device world.used ∉ world.backings := by
    intro hmem
    obtain ⟨index, hlt, heq⟩ := hw.backed _ hmem
    exact absurd (Backing.device.inj heq) (Nat.ne_of_gt hlt)
  refine ⟨⟨?_, ?_, ?_⟩, ?_, ?_⟩
  · intro backing hmem
    rcases List.mem_append.1 (backings_addHandle _ _ ▸ hmem) with hmem | hmem
    · obtain ⟨index, hlt, heq⟩ := hw.backed backing hmem
      exact ⟨index, Nat.lt_succ_of_lt hlt, heq⟩
    · exact ⟨world.used, Nat.lt_succ_self _, List.mem_singleton.1 hmem⟩
  · rw [backings_addHandle]
    refine List.nodup_append.2 ⟨hw.nodup, by simp, ?_⟩
    rintro a ha b hb rfl
    exact hfresh (List.mem_singleton.1 hb ▸ ha)
  · exact fun index hle => hw.untouched index (Nat.le_of_succ_le hle)
  · simp [addHandle, backings]
  · rw [deviceLedger, backings_addHandle, List.mapIdx_append, List.mapIdx_singleton, Nat.zero_add]
    refine congrArg₂ (· ++ ·) rfl ?_
    simpa [addHandle, backings, heldBy] using huntouched

/-- The next device, whether it opens or not, was not behind a handle before. -/
theorem OnDevices.openDevice {world t : World} (hw : OnDevices world)
    {result : Except IoError Handle} (h : world.openDevice = (result, t)) :
    OnDevices t ∧
      (∀ handle, result = .ok handle → handle = world.backings.length ∧
        t.deviceLedger = world.deviceLedger ++ [(handle, [])]) ∧
      (∀ cause, result = .error cause → t.deviceLedger = world.deviceLedger) := by
  unfold World.openDevice at h
  cases hd : world.devices[world.used]? with
  | none =>
    obtain ⟨rfl, rfl⟩ := Prod.mk.inj (by simpa [hd] using h)
    exact ⟨hw, by simp, fun _ _ => rfl⟩
  | some next =>
    simp only [hd] at h
    cases ho : next.openError with
    | some text =>
      obtain ⟨rfl, rfl⟩ := Prod.mk.inj (by simpa [ho] using h)
      refine ⟨⟨?_, hw.nodup, fun index hle => hw.untouched index (Nat.le_of_succ_le hle)⟩,
        by simp, fun _ _ => rfl⟩
      intro backing hmem
      obtain ⟨index, hlt, heq⟩ := hw.backed backing hmem
      exact ⟨index, Nat.lt_succ_of_lt hlt, heq⟩
    | none =>
      obtain ⟨rfl, rfl⟩ := Prod.mk.inj (by simpa [ho] using h)
      obtain ⟨ht, hhandle, hl⟩ := hw.handOut
      refine ⟨ht, ?_, by simp⟩
      rintro handle heq
      obtain rfl := Except.ok.inj heq
      exact ⟨hhandle, hhandle ▸ hl⟩

theorem flush_snd (handle : Handle) (world : World) : (world.flush handle).2 = world := by
  unfold World.flush
  split <;> rfl

theorem finish_snd (handle : Handle) (world : World) : (world.finish handle).2 = world := by
  unfold World.finish
  split <;> rfl

/-- Devices of any kind keep the contract. -/
theorem deviceOutputs_contract : WriteContract deviceOutputs deviceView where
  opened := by
    intro path s handle t hs h
    obtain ⟨ht, hok, -⟩ := OnDevices.openDevice hs h
    obtain ⟨rfl, hl⟩ := hok handle rfl
    refine ⟨ht, ?_, hl⟩
    change _ ∉ s.deviceLedger.handles
    simp [handles_deviceLedger]
  notOpened := by
    intro path s cause t hs h
    obtain ⟨ht, -, herror⟩ := OnDevices.openDevice hs h
    exact ⟨ht, herror cause rfl⟩
  took := by
    intro handle slices s n t hs h
    rcases OnDevices.write hs h with ⟨-, hr⟩ | ⟨index, found, changed, hb, hd, hf, ht, hl⟩
    · exact absurd rfl (hr n)
    · obtain ⟨hn, hc⟩ := Device.write_took hf
      exact ⟨ht, hn, hl.trans (deviceLedger_setDevice hs hb hd hc)⟩
  tookNone := by
    intro handle slices s reply t hs h hr
    rcases OnDevices.write hs h with ⟨rfl, -⟩ | ⟨index, found, changed, hb, hd, hf, ht, hl⟩
    · exact ⟨hs, rfl⟩
    · have hc := Device.write_tookNone hf hr
      rw [← List.append_nil found.content] at hc
      refine ⟨ht, hl.trans ?_⟩
      rw [deviceLedger_setDevice hs hb hd hc, Ledger.credit_nil]
      rfl
  flushed := by
    intro handle s reply t hs h
    have ht := flush_snd handle s
    rw [show s.flush handle = _ from h] at ht
    obtain rfl : t = s := ht
    exact ⟨hs, rfl⟩
  finished := by
    intro handle s reply t hs h
    have ht := finish_snd handle s
    rw [show s.finish handle = _ from h] at ht
    obtain rfl : t = s := ht
    exact ⟨hs, rfl⟩

end World

end RequestLog
