import RequestLog.Proofs.Chains
import RequestLog.Proofs.Queue
import RequestLog.Proofs.Calls

/-! Drains call by call. Of any output that takes what it says it takes, a drain asks at most one
call for each byte and for each interruption, and what the output took and what is left are the
queue. -/

namespace RequestLog

/-- One open output: what it answers to a call that offers these slices, and its state after it. -/
abbrev Writer (σ : Type) := List Bytes → σ → WriteReply × σ

/-- A call that is answered with a count took so many bytes, the first of those offered, and any
other call took none. -/
structure Writer.Honest {σ : Type} (write : Writer σ) (valid : σ → Prop) (taken : σ → Bytes) :
    Prop where
  took : ∀ {slices s n t}, valid s → write slices s = (.took n, t) →
    valid t ∧ n ≤ slices.flatten.length ∧ taken t = taken s ++ slices.flatten.take n
  tookNone : ∀ {slices s reply t}, valid s → write slices s = (reply, t) → (∀ n, reply ≠ .took n) →
    valid t ∧ taken t = taken s

/-- Each open handle of outputs under the contract is an honest writer. -/
theorem WriteContract.honest {σ : Type} {o : Outputs σ} {v : View σ} (hc : WriteContract o v)
    (handle : Handle) :
    Writer.Honest (o.write handle) (fun s => v.valid s ∧ handle ∈ (v.ledger s).handles)
      (fun s => (v.ledger s).takenBy handle) where
  took := by
    rintro slices s n t ⟨hv, hmem⟩ hw
    obtain ⟨hv', hn, hl⟩ := hc.took hv hw
    rw [hl, Ledger.handles_credit, Ledger.takenBy_credit hmem]
    exact ⟨⟨hv', hmem⟩, hn, rfl⟩
  tookNone := by
    rintro slices s reply t ⟨hv, hmem⟩ hw hr
    obtain ⟨hv', hl⟩ := hc.tookNone hv hw hr
    rw [hl]
    exact ⟨⟨hv', hmem⟩, rfl⟩

namespace Sink

namespace Pending

/-! ### The calls of a drain -/

structure Call where
  offered : List Bytes
  reply : WriteReply
deriving DecidableEq, Repr

def Call.taken (call : Call) : Bytes :=
  match call.reply with
  | .took n => call.offered.flatten.take n
  | _ => []

/-- The first calls of a drain, and how it ended if it has ended with them. -/
structure Watched (σ : Type) where
  calls : List Call := []
  ended? : Option (Drained σ) := none

namespace Watched

variable {σ : Type}

def after (call : Call) (w : Watched σ) : Watched σ := { w with calls := call :: w.calls }

def taken (w : Watched σ) : Bytes := w.calls.flatMap Call.taken

def interruptions (w : Watched σ) : Nat := w.calls.countP (·.reply = .interrupted)

@[simp] theorem calls_after (call : Call) (w : Watched σ) :
    (w.after call).calls = call :: w.calls := rfl

@[simp] theorem ended?_after (call : Call) (w : Watched σ) : (w.after call).ended? = w.ended? := rfl

@[simp] theorem taken_after (call : Call) (w : Watched σ) :
    (w.after call).taken = call.taken ++ w.taken := rfl

@[simp] theorem interruptions_after (call : Call) (w : Watched σ) :
    (w.after call).interruptions
      = w.interruptions + if call.reply = .interrupted then 1 else 0 := by
  simp [interruptions, List.countP_cons]

end Watched

def offer (pending : Pending) : List Bytes := pending.lines.take batch

inductive Turn (σ : Type) where
  | ends (d : Drained σ)
  | goesOn (pending : Pending) (counters : Counters) (s : σ)

def turn {σ : Type} (pending : Pending) (counters : Counters) : WriteReply × σ → Turn σ
  | (.took 0, t) => .ends ⟨.error .writeZero, pending, counters, t⟩
  | (.took (n + 1), t) =>
    .goesOn (pending.consume (n + 1) counters).1 (pending.consume (n + 1) counters).2 t
  | (.interrupted, t) => .goesOn pending counters t
  | (.failed cause, t) => .ends ⟨.error cause, pending, counters, t⟩

/-- A drain that is watched for at most so many calls. No bound on the interruptions of the output
goes into it. -/
def watch {σ : Type} (write : Writer σ) (limit : Nat) (pending : Pending) (counters : Counters)
    (s : σ) : Watched σ :=
  if pending.lines = [] then { ended? := some ⟨.ok (), pending, counters, s⟩ }
  else
    match limit with
    | 0 => {}
    | limit + 1 =>
      Watched.after ⟨pending.offer, (write pending.offer s).1⟩
        (match turn pending counters (write pending.offer s) with
        | .ends d => { ended? := some d }
        | .goesOn pending counters t => watch write limit pending counters t)

section drain

variable {σ : Type} {o : Outputs σ} {handle : Handle} {write : Writer σ} {valid : σ → Prop}
  {taken : σ → Bytes} {limit : Nat} {pending : Pending} {counters : Counters} {s : σ}
  {d : Drained σ}

theorem watch_of_nil (he : pending.lines = []) (limit : Nat) (counters : Counters) (s : σ) :
    watch write limit pending counters s = { ended? := some ⟨.ok (), pending, counters, s⟩ } := by
  rw [watch.eq_def, if_pos he]

theorem watch_succ (he : pending.lines ≠ []) (limit : Nat) (counters : Counters) (s : σ) :
    watch write (limit + 1) pending counters s =
      Watched.after ⟨pending.offer, (write pending.offer s).1⟩
        (match turn pending counters (write pending.offer s) with
        | .ends d => { ended? := some d }
        | .goesOn pending counters t => watch write limit pending counters t) := by
  rw [watch.eq_def, if_neg he]

/-- A drain goes from turn to turn. -/
theorem drain_eq_turn (he : pending.lines ≠ []) (counters : Counters) (s : σ) :
    drain o handle pending counters s =
      match turn pending counters (o.write handle pending.offer s) with
      | .ends d => d
      | .goesOn pending counters t => drain o handle pending counters t := by
  rw [drain, dif_neg he]
  split <;> rename_i hw <;> simp only [offer, hw, turn]

/-- A drain that is seen to end is the drain. -/
theorem drain_eq_of_watch (h : (watch (o.write handle) limit pending counters s).ended? = some d) :
    drain o handle pending counters s = d := by
  fun_induction watch (o.write handle) limit pending counters s with
  | case1 limit pending counters s he =>
    rw [drain, dif_pos he]
    exact Option.some.inj h
  | case2 pending counters s he => simp at h
  | case3 pending counters s he limit ih =>
    rw [drain_eq_turn he]
    cases hturn : turn pending counters (o.write handle pending.offer s) with
    | ends d' =>
      simp only [hturn, Watched.ended?_after] at h ⊢
      exact Option.some.inj h
    | goesOn pending' counters' t =>
      simp only [hturn, Watched.ended?_after] at h ⊢
      exact ih _ _ _ h

theorem length_calls_le (write : Writer σ) (limit : Nat) (pending : Pending) (counters : Counters)
    (s : σ) : (watch write limit pending counters s).calls.length ≤ limit := by
  fun_induction watch write limit pending counters s with
  | case1 limit pending counters s he => exact Nat.zero_le _
  | case2 pending counters s he => exact Nat.zero_le _
  | case3 pending counters s he limit ih =>
    apply Nat.succ_le_succ
    split
    · exact Nat.zero_le _
    · exact ih _ _ _

/-- The limit makes no difference once the drain has ended. -/
theorem watch_eq_of_ended (h : (watch write limit pending counters s).ended? = some d)
    {more : Nat} (hmore : (watch write limit pending counters s).calls.length ≤ more) :
    watch write more pending counters s = watch write limit pending counters s := by
  fun_induction watch write limit pending counters s generalizing more with
  | case1 limit pending counters s he => exact watch_of_nil he ..
  | case2 pending counters s he => simp at h
  | case3 pending counters s he limit ih =>
    obtain ⟨more, rfl⟩ := Nat.exists_eq_add_of_le' ((Nat.le_add_left 1 _).trans hmore)
    have hrest := Nat.le_of_succ_le_succ hmore
    rw [Watched.ended?_after] at h
    rw [watch_succ he]
    cases hturn : turn pending counters (write pending.offer s) with
    | ends d' => rfl
    | goesOn pending' counters' t =>
      simp only [hturn] at h hrest ⊢
      rw [ih _ _ _ h hrest]

/-- A drain that ends is not interrupted more often than it was until then. -/
theorem interruptions_le_of_ended (h : (watch write limit pending counters s).ended? = some d)
    (more : Nat) :
    (watch write more pending counters s).interruptions
      ≤ (watch write limit pending counters s).interruptions := by
  fun_induction watch write limit pending counters s generalizing more with
  | case1 limit pending counters s he =>
    rw [watch_of_nil he]
  | case2 pending counters s he => simp at h
  | case3 pending counters s he limit ih =>
    rw [Watched.ended?_after] at h
    cases more with
    | zero =>
      rw [watch.eq_def, if_neg he]
      exact Nat.zero_le _
    | succ more =>
      rw [watch_succ he, Watched.interruptions_after, Watched.interruptions_after]
      apply Nat.add_le_add_right
      cases hturn : turn pending counters (write pending.offer s) with
      | ends d' => exact Nat.le_refl _
      | goesOn pending' counters' t =>
        simp only [hturn] at h
        exact ih _ _ _ h more

/-! ### What a drain takes -/

/-- From one place in a drain to a later one an output took these bytes, which are the first of the
queue, and the queue and the counters are as they are without them. -/
structure Takes (valid : σ → Prop) (taken : σ → Bytes) (pending : Pending) (counters : Counters)
    (s : σ) (bytes : Bytes) (pending' : Pending) (counters' : Counters) (s' : σ) : Prop where
  valid : valid s'
  taken : taken s' = taken s ++ bytes
  front : bytes <+: pending.lines.flatten
  left : (pending', counters') = pending.consume bytes.length counters

theorem Takes.nothing {t : σ} (ht : valid t) (htaken : taken t = taken s) :
    Takes valid taken pending counters s [] pending counters t where
  valid := ht
  taken := htaken.trans (List.append_nil _).symm
  front := List.nil_prefix
  left := (consume_zero pending counters).symm

section takes

variable {pending' pending'' : Pending} {counters' counters'' : Counters} {s' s'' : σ}
  {bytes more : Bytes} (h : Takes valid taken pending counters s bytes pending' counters' s')

include h

theorem Takes.lines_eq : pending'.lines = (dropBytes bytes.length pending.lines).1 :=
  congrArg (fun left => left.1.lines) h.left

theorem Takes.flatten_eq : bytes ++ pending'.lines.flatten = pending.lines.flatten := by
  obtain ⟨rest, hrest⟩ := h.front
  rw [h.lines_eq, flatten_dropBytes, ← hrest, List.drop_left]

theorem Takes.lines_ne_nil (hlines : ∀ line ∈ pending.lines, line ≠ []) :
    ∀ line ∈ pending'.lines, line ≠ [] := by
  rw [h.lines_eq]
  exact dropBytes_ne_nil hlines _

theorem Takes.progress_finished :
    Progress pending.lines bytes (dropBytes bytes.length pending.lines).2 pending'.lines := by
  have hstart : Progress pending.lines [] 0 pending.lines := by
    simpa using Progress.nil.append pending.lines
  have hprogress := hstart.dropBytes h.front.length_le
  rwa [← List.prefix_iff_eq_take.1 h.front, ← h.lines_eq, List.nil_append,
    Nat.zero_add] at hprogress

/-- As many lines were taken to their ends as are gone from the queue. -/
theorem Takes.finished_eq :
    (dropBytes bytes.length pending.lines).2 = pending.lines.length - pending'.lines.length := by
  rw [h.progress_finished.length_eq, Nat.add_sub_cancel_right]

theorem Takes.progress :
    Progress pending.lines bytes (pending.lines.length - pending'.lines.length) pending'.lines := by
  rw [← h.finished_eq]
  exact h.progress_finished

theorem Takes.counters_eq :
    counters' = (counters.addBytes bytes.length).addLines
      (pending.lines.length - pending'.lines.length) := by
  rw [← h.finished_eq]
  exact congrArg Prod.snd h.left

/-- A queue that knew how many bytes it holds knows it still. -/
theorem Takes.bytes_eq (hbytes : pending.bytes = pending.lines.flatten.length) :
    pending'.bytes = pending'.lines.flatten.length := by
  have hleft : pending'.bytes = pending.bytes - bytes.length :=
    congrArg (fun left => left.1.bytes) h.left
  rw [hleft, hbytes, ← h.flatten_eq, List.length_append, Nat.add_sub_cancel_left]

theorem Takes.trans (h' : Takes valid taken pending' counters' s' more pending'' counters'' s'') :
    Takes valid taken pending counters s (bytes ++ more) pending'' counters'' s'' where
  valid := h'.valid
  taken := by rw [h'.taken, h.taken, List.append_assoc]
  front := by
    rw [← h.flatten_eq]
    exact (List.prefix_append_right_inj bytes).2 h'.front
  left := by
    have hleft := consume_consume bytes.length more.length pending counters
    rw [← h.left] at hleft
    rw [h'.left, List.length_append, ← hleft]

end takes

section honest

variable (hw : write.Honest valid taken)

include hw

/-- A call takes as many bytes as its answer says, from the front of the queue. -/
theorem takes_of_took (hs : valid s) (counters : Counters) {n : Nat} {t : σ}
    (h : write pending.offer s = (.took n, t)) :
    let call : Call := ⟨pending.offer, .took n⟩
    Takes valid taken pending counters s call.taken (pending.consume n counters).1
        (pending.consume n counters).2 t ∧
      call.taken.length = n := by
  obtain ⟨ht, hn, htaken⟩ := hw.took hs h
  have hlength : (pending.offer.flatten.take n).length = n := List.length_take_of_le hn
  have hoffer : pending.offer.flatten <+: pending.lines.flatten := (List.take_prefix _ _).flatten
  exact ⟨⟨ht, htaken, (List.take_prefix _ _).trans hoffer, by rw [Call.taken, hlength]⟩, hlength⟩

/-- A call that is answered in any other way, or with zero, takes nothing. -/
theorem takes_nothing (hs : valid s) (counters : Counters) {reply : WriteReply} {t : σ}
    (h : write pending.offer s = (reply, t)) (hr : ∀ n, reply ≠ .took (n + 1)) :
    Takes valid taken pending counters s
      (Call.taken ⟨pending.offer, reply⟩) pending counters t := by
  rcases reply with (_ | n) | - | cause
  · obtain ⟨ht, -, htaken⟩ := hw.took hs h
    exact .nothing ht (htaken.trans (List.append_nil _))
  · exact absurd rfl (hr n)
  · obtain ⟨ht, htaken⟩ := hw.tookNone hs h nofun
    exact .nothing ht htaken
  · obtain ⟨ht, htaken⟩ := hw.tookNone hs h nofun
    exact .nothing ht htaken

/-- A turn that ends the drain does not empty the queue, and does not claim to. -/
theorem takes_of_ends (hs : valid s)
    (h : turn pending counters (write pending.offer s) = .ends d) :
    Takes valid taken pending counters s (Call.taken ⟨pending.offer, (write pending.offer s).1⟩)
        d.pending d.counters d.outputs ∧
      d.pending = pending ∧ d.result ≠ .ok () := by
  rcases hwrite : write pending.offer s with ⟨(_ | n) | - | cause, t⟩ <;> rw [hwrite] at h
  · obtain rfl := Turn.ends.inj h
    exact ⟨takes_nothing hw hs counters hwrite nofun, rfl, nofun⟩
  · cases h
  · cases h
  · obtain rfl := Turn.ends.inj h
    exact ⟨takes_nothing hw hs counters hwrite nofun, rfl, nofun⟩

/-- A turn after which the drain goes on has taken a byte, unless it was interrupted. -/
theorem takes_of_goesOn (hs : valid s) {pending' : Pending} {counters' : Counters} {t : σ}
    (h : turn pending counters (write pending.offer s) = .goesOn pending' counters' t) :
    let call : Call := ⟨pending.offer, (write pending.offer s).1⟩
    Takes valid taken pending counters s call.taken pending' counters' t ∧
      (call.reply = .interrupted ∨ call.taken ≠ []) := by
  rcases hwrite : write pending.offer s with ⟨(_ | n) | - | cause, t'⟩ <;> rw [hwrite] at h
  · cases h
  · obtain ⟨rfl, rfl, rfl⟩ := Turn.goesOn.inj h
    obtain ⟨htakes, hlength⟩ := takes_of_took hw hs counters hwrite
    exact ⟨htakes, .inr (List.ne_nil_of_length_eq_add_one hlength)⟩
  · obtain ⟨rfl, rfl, rfl⟩ := Turn.goesOn.inj h
    exact ⟨takes_nothing hw hs counters hwrite nofun, .inl rfl⟩
  · cases h

/-- From its beginning to its end a drain takes what its calls took. -/
theorem watch_takes (hs : valid s) (h : (watch write limit pending counters s).ended? = some d) :
    Takes valid taken pending counters s (watch write limit pending counters s).taken d.pending
        d.counters d.outputs ∧
      (d.result = .ok () ↔ d.pending.lines = []) := by
  fun_induction watch write limit pending counters s with
  | case1 limit pending counters s he =>
    obtain rfl := Option.some.inj h
    exact ⟨.nothing hs rfl, by simp [he]⟩
  | case2 pending counters s he => simp at h
  | case3 pending counters s he limit ih =>
    rw [Watched.ended?_after] at h
    rw [Watched.taken_after]
    cases hturn : turn pending counters (write pending.offer s) with
    | ends d' =>
      simp only [hturn] at h ⊢
      obtain rfl := Option.some.inj h
      obtain ⟨htakes, hpending, hresult⟩ := takes_of_ends hw hs hturn
      exact ⟨by simpa [Watched.taken] using htakes, by simp [hpending, hresult, he]⟩
    | goesOn pending' counters' t =>
      simp only [hturn] at h ⊢
      obtain ⟨hcall, -⟩ := takes_of_goesOn hw hs hturn
      obtain ⟨hrest, hresult⟩ := ih _ _ _ hcall.valid h
      exact ⟨hcall.trans hrest, hresult⟩

/-- As long as a drain has not ended, each of its calls took a byte or was interrupted, and bytes
are left. -/
theorem watch_pace (hs : valid s) (hlines : ∀ line ∈ pending.lines, line ≠ [])
    (h : (watch write limit pending counters s).ended? = none) :
    let seen := watch write limit pending counters s
    limit ≤ seen.taken.length + seen.interruptions ∧
      seen.taken.length < pending.lines.flatten.length := by
  fun_induction watch write limit pending counters s with
  | case1 limit pending counters s he => simp at h
  | case2 pending counters s he =>
    obtain ⟨line, rest, hcons⟩ := List.exists_cons_of_ne_nil he
    have hfirst := List.length_pos_iff.2 (hlines line (by simp [hcons]))
    refine ⟨Nat.zero_le _, ?_⟩
    simp [Watched.taken, hcons]
    omega
  | case3 pending counters s he limit ih =>
    rw [Watched.ended?_after] at h
    simp only [Watched.taken_after, Watched.interruptions_after]
    cases hturn : turn pending counters (write pending.offer s) with
    | ends d' => simp [hturn] at h
    | goesOn pending' counters' t =>
      simp only [hturn] at h ⊢
      obtain ⟨hcall, hprogress⟩ := takes_of_goesOn hw hs hturn
      obtain ⟨hpace, hleft⟩ := ih _ _ _ hcall.valid (hcall.lines_ne_nil hlines) h
      have hlength := congrArg List.length hcall.flatten_eq
      rw [List.length_append] at hlength ⊢
      refine ⟨?_, by omega⟩
      rcases hprogress with hreply | htaken
      · rw [if_pos hreply]
        omega
      · have hpos := List.length_pos_iff.2 htaken
        omega

end honest

end drain

/-! ### Every drain -/

/-- Every drain comes to its end. Whatever an output answers, as long as it takes what it says it
takes and is interrupted no more than `k` times, a drain ends after at most one call for each byte
of the queue, `k` more and one. The bytes that the calls took and those that are left are the bytes
of the queue; the lines that are gone were written in full, and of the lines left only the first has
lost anything; and the drain succeeds exactly if nothing is left. -/
theorem drain_ends {σ : Type} {write : Writer σ} {valid : σ → Prop} {taken : σ → Bytes}
    (hw : write.Honest valid taken) {pending : Pending} (hlines : ∀ line ∈ pending.lines, line ≠ [])
    (counters : Counters) {s : σ} (hs : valid s) {k : Nat}
    (hk : ∀ limit, (watch write limit pending counters s).interruptions ≤ k) :
    ∃ (d : Drained σ) (calls : List Call),
      (∀ limit ≥ calls.length, watch write limit pending counters s = ⟨calls, some d⟩) ∧
      (∀ (o : Outputs σ) handle, o.write handle = write → drain o handle pending counters s = d) ∧
      calls.length ≤ pending.lines.flatten.length + k + 1 ∧
      (pending.lines = [] → calls = []) ∧
      taken d.outputs = taken s ++ calls.flatMap Call.taken ∧
      calls.flatMap Call.taken ++ d.pending.lines.flatten = pending.lines.flatten ∧
      Progress pending.lines (calls.flatMap Call.taken)
        (pending.lines.length - d.pending.lines.length) d.pending.lines ∧
      (∀ line ∈ d.pending.lines, line ≠ []) ∧
      (pending.bytes = pending.lines.flatten.length →
        d.pending.bytes = d.pending.lines.flatten.length) ∧
      d.counters = (counters.addBytes (calls.flatMap Call.taken).length).addLines
        (pending.lines.length - d.pending.lines.length) ∧
      (d.result = .ok () ↔ d.pending.lines = []) := by
  -- with so many calls the drain cannot still go on
  obtain ⟨d, hd⟩ : ∃ d, (watch write (pending.lines.flatten.length + k + 1) pending counters
      s).ended? = some d := by
    rw [← Option.ne_none_iff_exists']
    intro hnone
    obtain ⟨hpace, hleft⟩ := watch_pace hw hs hlines hnone
    have hinterruptions := hk (pending.lines.flatten.length + k + 1)
    omega
  obtain ⟨htakes, hresult⟩ := watch_takes hw hs hd
  refine ⟨d, _, fun limit hlimit => ?_, fun o handle ho => ?_, length_calls_le .., fun he => ?_,
    htakes.taken, htakes.flatten_eq, htakes.progress, htakes.lines_ne_nil hlines, htakes.bytes_eq,
    htakes.counters_eq, hresult⟩
  · rw [watch_eq_of_ended hd hlimit, ← hd]
  · subst ho
    exact drain_eq_of_watch hd
  · rw [watch_of_nil he]

/-- Two lines, of which the device that is interrupted once takes no more than five bytes. -/
def unluckyQueue : Pending := ⟨[[97, 98, 99, 10], [100, 101, 10]], 7⟩

theorem drain_ends_unlucky :
    let world := Session.onUnreliable.outputs
    let d := drain World.deviceOutputs 0 unluckyQueue {} world
    (∀ line ∈ unluckyQueue.lines, line ≠ []) ∧
      (∀ limit,
        (watch (World.deviceOutputs.write 0) limit unluckyQueue {} world).interruptions ≤ 1) ∧
      (∃ calls : List Call, calls.length = 5 ∧
        watch (World.deviceOutputs.write 0) 5 unluckyQueue {} world = ⟨calls, some d⟩) ∧
      d.pending.lines = [[101, 10]] ∧ d.result ≠ .ok () ∧ d.counters.linesWritten = 1 ∧
      (World.deviceLedger d.outputs).takenBy 0 = [97, 98, 99, 10, 100] := by
  intro world d
  have hlines : ∀ line ∈ unluckyQueue.lines, line ≠ [] := by decide
  let seen := watch (World.deviceOutputs.write 0) 5 unluckyQueue {} world
  obtain ⟨d', hended⟩ : ∃ d, seen.ended? = some d := Option.isSome_iff_exists.1 (by cbv)
  have hinterruptions (limit : Nat) :
      (watch (World.deviceOutputs.write 0) limit unluckyQueue {} world).interruptions ≤ 1 :=
    (interruptions_le_of_ended hended limit).trans_eq (by cbv)
  have hvalid := (Session.onUnreliable_opened.inv World.deviceOutputs_contract).1.valid
  obtain ⟨d', calls, hwatch, hdrain, -, -, -, -, -, -, -, -, hresult⟩ :=
    drain_ends (World.deviceOutputs_contract.honest 0) hlines {} (s := world)
      ⟨hvalid, by decide⟩ hinterruptions
  obtain rfl : d = d' := hdrain World.deviceOutputs 0 rfl
  have hseen : seen = ⟨calls, some d⟩ := by
    rw [← hwatch (max 5 calls.length) (Nat.le_max_right ..)]
    exact (watch_eq_of_ended hended ((length_calls_le ..).trans (Nat.le_max_left ..))).symm
  have hcalls : seen.calls.length = 5 := by cbv
  have hleft : seen.ended?.map (·.pending.lines) = some [[101, 10]] := by cbv
  have hcounted : seen.ended?.map (·.counters.linesWritten) = some 1 := by cbv
  have htaken : seen.ended?.map (fun d => (World.deviceLedger d.outputs).takenBy 0)
      = some [97, 98, 99, 10, 100] := by cbv
  rw [hseen] at hcalls hleft hcounted htaken
  have hlines' := Option.some.inj hleft
  exact ⟨hlines, hinterruptions, ⟨calls, hcalls, hseen⟩, hlines',
    fun hok => by simp [hresult.1 hok] at hlines', Option.some.inj hcounted, Option.some.inj htaken⟩

end Pending

end Sink

end RequestLog
