import ChainFeed.Proofs.Run.Turns

/-!
# The order of a fan-out

A fan-out goes through the registered clients one by one. Each of them gets its turn once, and a
turn neither reads nor changes anything of the others, so it does not matter in which order they
come. A stop goes through them in an order that it is given, which can be any.
-/

namespace ChainFeed.Hub

open Client

variable (wants : Client → Bool) (e : Event)

/-- The turn of the client at `slot` in a fan-out that has come as far as `r`. -/
def serve (r : Hub × DeliveryReport) (slot : Nat) : Hub × DeliveryReport :=
  match r.1.clients[slot]? with
  | none => r
  | some x =>
    if wants x then
      match x.reception e with
      | .delivered after =>
        (r.1.modifyClient slot fun _ => after, { r.2 with delivered := r.2.delivered + 1 })
      | .dropped =>
        let metrics :=
          { r.1.metrics with droppedDeliveries := r.1.metrics.droppedDeliveries + 1 }
        ({ r.1 with metrics }, { r.2 with dropped := r.2.dropped + 1 })
      | .skipped => (r.1, { r.2 with skipped := r.2.skipped + 1 })
    else r

/-- A fan-out that goes through the clients at `order`. -/
def fanOutIn (h : Hub) (order : List Nat) : Hub × DeliveryReport :=
  order.foldl (serve wants e) (h, ⟨0, 0, 0⟩)

/-- The registered clients stand in the list, each once. -/
structure Snapshot (h : Hub) (order : List Nat) : Prop where
  nodup : order.Nodup
  mem_iff : ∀ slot, slot ∈ order ↔ h.clients[slot]?.any Client.registered = true

def tally (h : Hub) (slots : List Nat) (p : Client → Bool) : Nat :=
  slots.countP fun n => h.clients[n]?.any p

/-- The clients of which those at `slots` have been offered the event. -/
def offeredTo (h : Hub) (slots : List Nat) : List Client :=
  h.clients.mapIdx fun n x => if n ∈ slots then x.offer wants e else x

/-- What a fan-out has come to when the clients at `slots` have had their turns. -/
def served (h : Hub) (report : DeliveryReport) (slots : List Nat) : Hub × DeliveryReport :=
  let dropped := h.tally slots (Client.misses wants e)
  let metrics := { h.metrics with droppedDeliveries := h.metrics.droppedDeliveries + dropped }
  ({ h with clients := h.offeredTo wants e slots, metrics },
    ⟨report.delivered + h.tally slots (Client.takes wants e), report.dropped + dropped,
      report.skipped + h.tally slots (Client.isGone wants e)⟩)

section
variable {wants e} {h : Hub} {slot : Nat}

theorem getElem?_offeredTo (slots : List Nat) (n : Nat) : (h.offeredTo wants e slots)[n]? =
    h.clients[n]?.map fun x => if n ∈ slots then x.offer wants e else x :=
  List.getElem?_mapIdx

theorem offeredTo_nil : h.offeredTo wants e [] = h.clients := by
  apply List.ext_getElem?
  intro n
  rw [getElem?_offeredTo]
  simp

theorem offeredTo_singleton {x : Client} (hx : h.clients[slot]? = some x) :
    h.offeredTo wants e [slot] = h.clients.modify slot fun _ => x.offer wants e := by
  apply List.ext_getElem?
  intro n
  rw [getElem?_offeredTo, List.getElem?_modify]
  by_cases hn : slot = n
  · subst hn
    simp [hx]
  · simp [hn, Ne.symm hn]

theorem tally_singleton {x : Client} (hx : h.clients[slot]? = some x) (p : Client → Bool) :
    h.tally [slot] p = if p x then 1 else 0 := by
  simp [tally, hx]

theorem offeredTo_of_kept {x : Client} (hx : h.clients[slot]? = some x)
    (hkept : x.offer wants e = x) : h.offeredTo wants e [slot] = h.clients := by
  rw [offeredTo_singleton hx, hkept]
  have hsame : h.modifyClient slot (fun _ => x) = h :=
    modifyClient_eq_self fun y hy => Option.some.inj (hx.symm.trans hy)
  exact congrArg Hub.clients hsame

/-- A turn comes to what the client does with the event. -/
theorem serve_eq_served (report : DeliveryReport)
    (hin : h.clients[slot]?.any Client.registered = true) :
    serve wants e (h, report) slot = h.served wants e report [slot] := by
  obtain ⟨x, hx, hregistered⟩ : ∃ x, h.clients[slot]? = some x ∧ x.registered = true := by
    simpa [Option.any_eq_true] using hin
  have haddressed : x.isAddressed wants = wants x := by rw [isAddressed, hregistered, Bool.true_and]
  simp only [serve, served, tally_singleton hx, takes, misses, isGone, haddressed, hx]
  cases hwants : wants x with
  | false =>
    have hkept : x.offer wants e = x := by simp [offer, haddressed, hwants]
    simp [offeredTo_of_kept hx hkept]
  | true =>
    cases hr : x.reception e with
    | delivered after =>
      have htaken : x.offer wants e = after := by simp [offer, haddressed, hwants, hr]
      simp [offeredTo_singleton hx, htaken, modifyClient]
    | dropped =>
      have hkept : x.offer wants e = x := by simp [offer, haddressed, hwants, hr]
      simp [offeredTo_of_kept hx hkept]
    | skipped =>
      have hkept : x.offer wants e = x := by simp [offer, haddressed, hwants, hr]
      simp [offeredTo_of_kept hx hkept]

/-- A turn leaves the other clients alone. -/
theorem getElem?_served_of_ne (report : DeliveryReport) {n : Nat} (hn : n ≠ slot) :
    (h.served wants e report [slot]).1.clients[n]? = h.clients[n]? := by
  refine (getElem?_offeredTo [slot] n).trans ?_
  simp [hn]

theorem served_served (report : DeliveryReport) {rest : List Nat} (hnot : slot ∉ rest) :
    (h.served wants e report [slot]).1.served wants e (h.served wants e report [slot]).2 rest =
      h.served wants e report (slot :: rest) := by
  have hclients : (h.served wants e report [slot]).1.offeredTo wants e rest =
      h.offeredTo wants e (slot :: rest) := by
    apply List.ext_getElem?
    intro n
    have hfirst : (h.served wants e report [slot]).1.clients = h.offeredTo wants e [slot] := rfl
    rw [getElem?_offeredTo, getElem?_offeredTo, hfirst, getElem?_offeredTo, Option.map_map]
    congr 1
    funext x
    by_cases hn : n = slot
    · subst hn
      simp [hnot]
    · simp [hn]
  have htally (p : Client → Bool) :
      (h.served wants e report [slot]).1.tally rest p = h.tally rest p := by
    refine List.countP_congr fun n hn => ?_
    rw [getElem?_served_of_ne report (ne_of_mem_of_not_mem hn hnot)]
  have hcons (p : Client → Bool) :
      h.tally (slot :: rest) p = h.tally [slot] p + h.tally rest p := by
    rw [tally, ← List.singleton_append, List.countP_append]
    rfl
  rw [served, hclients, htally, htally, htally]
  simp only [served, hcons, Nat.add_assoc]

theorem foldl_serve (report : DeliveryReport) {slots : List Nat} (hnodup : slots.Nodup)
    (hin : ∀ n ∈ slots, h.clients[n]?.any Client.registered = true) :
    slots.foldl (serve wants e) (h, report) = h.served wants e report slots := by
  induction slots generalizing h report with
  | nil => simp [served, tally, offeredTo_nil]
  | cons n rest ih =>
    obtain ⟨hnot, hrest⟩ := List.nodup_cons.1 hnodup
    rw [List.foldl_cons, serve_eq_served report (hin n List.mem_cons_self),
      ← served_served report hnot]
    -- Those who are still to come are as they were, and so are their counts.
    have hlater (k : Nat) (hk : k ∈ rest) :
        (h.served wants e report [n]).1.clients[k]?.any Client.registered = true := by
      rw [getElem?_served_of_ne report (ne_of_mem_of_not_mem hk hnot)]
      exact hin k (List.mem_cons_of_mem n hk)
    exact ih _ hrest hlater

end

theorem countP_slots (l : List Client) (p : Client → Bool) :
    (List.range l.length).countP (fun n => l[n]?.any p) = l.countP p := by
  induction l with
  | nil => rfl
  | cons x rest ih =>
    rw [List.length_cons, List.range_succ_eq_map, List.countP_cons, List.countP_map,
      List.countP_cons, ← ih]
    rfl

/-- A test that only registered clients pass is passed by as many in the snapshot as in all. -/
theorem Snapshot.tally_eq {h : Hub} {order : List Nat} (hs : h.Snapshot order) {p : Client → Bool}
    (hp : ∀ x, p x = true → x.registered = true) : h.tally order p = h.clients.countP p := by
  have hperm : order.Perm ((List.range h.clients.length).filter fun n =>
      h.clients[n]?.any Client.registered) := by
    refine (List.perm_ext_iff_of_nodup hs.nodup (List.nodup_range.filter _)).2 fun n => ?_
    rw [hs.mem_iff, List.mem_filter, List.mem_range]
    refine (and_iff_right_of_imp fun hany => ?_).symm
    obtain ⟨x, hx, _⟩ := (Option.any_eq_true _ _).1 hany
    exact (List.getElem?_eq_some_iff.1 hx).1
  rw [tally, hperm.countP_eq, List.countP_filter, ← countP_slots]
  refine List.countP_congr fun n _ => ?_
  cases h.clients[n]? with
  | none => simp
  | some x => simpa using hp x

theorem Snapshot.offeredTo_eq {h : Hub} {order : List Nat} (hs : h.Snapshot order) :
    h.offeredTo wants e order = h.clients.map (Client.offer wants e) := by
  apply List.ext_getElem?
  intro n
  rw [getElem?_offeredTo, List.getElem?_map]
  cases hx : h.clients[n]? with
  | none => rfl
  | some x =>
    by_cases hn : n ∈ order
    · simp [hn]
    · have hout : x.registered = false := by
        have hany := mt (hs.mem_iff n).2 hn
        simpa [hx] using hany
      simp [hn, offer, isAddressed, hout]

/-- The order in which a fan-out goes through the clients makes no difference. -/
theorem fanOutIn_eq {h : Hub} {order : List Nat} (hs : h.Snapshot order) :
    h.fanOutIn wants e order = h.fanOut wants e := by
  have hreached {x : Client} (haddressed : x.isAddressed wants = true) : x.registered = true := by
    rw [isAddressed, Bool.and_eq_true] at haddressed
    exact haddressed.1
  have htakes : h.tally order (takes wants e) = h.clients.countP (takes wants e) :=
    hs.tally_eq fun x hx => hreached (takes_iff.1 hx).1
  have hmisses : h.tally order (misses wants e) = h.clients.countP (misses wants e) :=
    hs.tally_eq fun x hx => hreached (misses_iff.1 hx).1
  have hgone : h.tally order (isGone wants e) = h.clients.countP (isGone wants e) :=
    hs.tally_eq fun x hx => hreached (isGone_iff.1 hx).1
  rw [fanOutIn, foldl_serve _ hs.nodup fun n hn => (hs.mem_iff n).1 hn, served,
    hs.offeredTo_eq wants e, htakes, hmisses, hgone]
  simp only [Nat.zero_add]
  rfl

end ChainFeed.Hub

namespace ChainFeed.Connection

theorem nodup_eraseDups : (l : List Nat) → l.eraseDups.Nodup
  | [] => List.nodup_nil
  | a :: rest => by
    rw [List.eraseDups_cons, List.nodup_cons]
    exact ⟨by simp, nodup_eraseDups (rest.filter fun b => !b == a)⟩
termination_by l => l.length
decreasing_by exact Nat.lt_succ_of_le (List.length_filter_le _ _)

theorem eraseDups_of_nodup {l : List Nat} (h : l.Nodup) : l.eraseDups = l := by
  induction l with
  | nil => rfl
  | cons a rest ih =>
    obtain ⟨hnot, hrest⟩ := List.nodup_cons.1 h
    have hkept : (rest.filter fun b => !b == a) = rest :=
      List.filter_eq_self.2 fun b hb => by simpa using ne_of_mem_of_not_mem hb hnot
    rw [List.eraseDups_cons, hkept, ih hrest]

/-- A stop comes to each registered client once. -/
theorem snapshot_registeredSlots (c : Connection) (order : List Nat) :
    c.hub.Snapshot (c.registeredSlots order) :=
  ⟨(nodup_eraseDups _).filter _, fun _ => mem_registeredSlots⟩

/-- A stop comes to the registered clients in the order that it is given. -/
theorem registeredSlots_of_snapshot {c : Connection} {order : List Nat}
    (h : c.hub.Snapshot order) : c.registeredSlots order = order := by
  have hfirst : (order.filter fun slot => c.hub.clients[slot]?.any Client.registered) = order :=
    List.filter_eq_self.2 fun slot hslot => (h.mem_iff slot).1 hslot
  have hlater : (((List.range c.hub.clients.length).removeAll order).eraseDups.filter fun slot =>
      c.hub.clients[slot]?.any Client.registered) = [] := by
    refine List.filter_eq_nil_iff.2 fun slot hslot hin => ?_
    have hnew : slot < c.hub.clients.length ∧ slot ∉ order := by
      simpa [List.removeAll] using hslot
    exact hnew.2 ((h.mem_iff slot).2 hin)
  rw [registeredSlots, List.eraseDups_append, eraseDups_of_nodup h.nodup, List.filter_append,
    hfirst, hlater, List.append_nil]

end ChainFeed.Connection
