import ChainFeed.Proofs.Run.CatchUpCall
import ChainFeed.Proofs.Run.Gauges
import ChainFeed.Proofs.Run.Lifecycle
import ChainFeed.Proofs.Run.Stage
import ChainFeed.Proofs.Run.Unconfirmed

/-!
# The life of a client in a run

The first start of a client that has not been stopped begins its handler, and tells so. Later ones
change nothing. A stop of a client has returned when its handler has come to its end. Then, if no
call to catch up was under way when the client was stopped, nothing comes from the client or to it
any more.
-/

namespace ChainFeed

namespace Hub

variable {h : Hub} {id : ClientId}

/-- To take out an id that nobody in the fan-out has changes nothing. -/
theorem unregister_eq_self (hgauged : h.Gauged)
    (hout : ∀ x ∈ h.clients, x.id = id → x.registered = false) : h.unregister id = h := by
  have hclients : h.clients.map (Client.withdraw id) = h.clients := by
    conv_rhs => rw [← List.map_id h.clients]
    refine List.map_congr_left fun x hx => ?_
    by_cases hid : x.id = id
    · exact Client.withdraw_of_out (hout x hx hid)
    · exact Client.withdraw_of_ne hid
  have hset : h.unregister id = h.setClients h.clients := congrArg h.setClients hclients
  have hcount : h.clients.countP Client.registered = h.metrics.clientsRegistered :=
    hgauged.clients.symm
  rw [hset, setClients, hcount]

end Hub

namespace Connection

open Client Hub

/-- What a call to start the client at `slot` returns. -/
def startsAt (slot : Nat) (c : Connection) : Action → List (Except Error Bool)
  | .startClient n => if n = slot then [(c.hub.startClient slot).map Prod.snd] else []
  | _ => []

/-- What the handler of the client at `slot` tells in a step: of what it has taken or kept, or of a
block that it has fetched to fill a gap. -/
def handlerNotesAt (slot : Nat) (c : Connection) (a : Action) : List Notification :=
  match c.hub.clients[slot]?, a with
  | some _, .handle n => if n = slot then c.notesAt slot a else []
  | some x, .answerClient n _ =>
    if n = slot ∧ x.catchUp.any fun u => u.cause.isSome then c.notesAt slot a else []
  | _, _ => []

/-- The call to catch up in the middle of which a step stops the client at `slot`. -/
def interruptedAt (slot : Nat) (c : Connection) (a : Action) : List CatchUp :=
  match c.hub.clients[slot]?, (c.step a).hub.clients[slot]? with
  | some x, some y =>
    if x.isStopped = false ∧ y.isStopped = true then
      (x.catchUp.filter fun u => u.cause.isNone).toList
    else []
  | _, _ => []

theorem onClient_eq_self {c : Connection} {n : Nat} {x : Client} {f : Client → Client}
    (hx : c.hub.clients[n]? = some x) (hf : f x = x) : c.onClient n f = c := by
  have hsame (y : Client) (hy : c.hub.clients[n]? = some y) : f y = y := by
    obtain rfl := Option.some.inj (hx.symm.trans hy)
    exact hf
  rw [onClient, onHub, modifyClient_eq_self hsame]

section
variable {slot : Nat} {c : Connection} {a : Action} {actions : List Action} {x y : Client}

/-- A step starts a client, or stops it, or leaves it at its stage. -/
theorem stage_step (hx : c.hub.clients[slot]? = some x)
    (hy : (c.step a).hub.clients[slot]? = some y) :
    a = .startClient slot ∧ y = x.started ∨
      a ≠ .startClient slot ∧ (SameStage x y ∨ y = x.stop) := by
  cases effect_of_getElem? hx hy with
  | fed ha heq =>
    refine .inr ⟨?_, .inl (heq ▸ .offerAll x _)⟩
    rintro rfl
    cases ha
  | operated _ hsubject heq =>
    by_cases hstart : ∃ n, a = .startClient n
    · obtain ⟨n, rfl⟩ := hstart
      cases hsubject
      exact .inl ⟨rfl, heq⟩
    · have hnot (n : Nat) : a ≠ .startClient n := fun hn => hstart ⟨n, hn⟩
      exact .inr ⟨hnot slot, .inl (heq ▸ .operate _ hnot x)⟩
  | dismissed _ hsubject hdismissed =>
    refine .inr ⟨fun ha => hsubject (ha ▸ rfl), ?_⟩
    cases hdismissed with
    | kept => exact .inl (.refl x)
    | withdrawn => exact .inl (.of_eq rfl rfl)
    | stopped => exact .inr rfl

theorem isStopped_run (hx : c.hub.clients[slot]? = some x) (hs : x.isStopped = true)
    (hy : (c.run actions).hub.clients[slot]? = some y) : y.isStopped = true := by
  cases hrunning : y.isStopped with
  | true => rfl
  | false => cases (running_of_run hx hy hrunning).symm.trans hs

theorem isStopped_of_stopClient (hx : c.hub.clients[slot]? = some x)
    (hstop : .stopClient slot ∈ actions) (hy : (c.run actions).hub.clients[slot]? = some y) :
    y.isStopped = true := by
  induction actions generalizing c x with
  | nil => cases hstop
  | cons a rest ih =>
    obtain ⟨z, hz, _⟩ := c.step_client slot a hx
    obtain rfl | hlater := List.mem_cons.1 hstop
    · obtain ⟨w, hw, hs⟩ : (c.step (.stopClient slot)).hub.HasStopped slot :=
        hasStopped_stopClient hx
      exact isStopped_run hw hs hy
    · exact ih hz hlater hy

/-- A client that has not been stopped runs if it has been started, and is as it was before if
not. -/
theorem phase_run (hx : c.hub.clients[slot]? = some x)
    (hy : (c.run actions).hub.clients[slot]? = some y) (hs : y.isStopped = false) :
    (.startClient slot ∈ actions → y.phase = .running) ∧
      (.startClient slot ∉ actions → y.phase = x.phase) := by
  induction actions generalizing c x with
  | nil =>
    obtain rfl := Option.some.inj (hx.symm.trans hy)
    exact ⟨nofun, fun _ => rfl⟩
  | cons a rest ih =>
    obtain ⟨z, hz, _⟩ := c.step_client slot a hx
    obtain ⟨hstarted, hsame⟩ := ih hz hy
    have hz_running : z.isStopped = false := running_of_run hz hy hs
    rw [List.mem_cons]
    obtain ⟨rfl, rfl⟩ | ⟨hne, hstage | rfl⟩ := stage_step hx hz
    · refine ⟨fun _ => ?_, fun hnot => absurd (.inl rfl) hnot⟩
      by_cases hlater : .startClient slot ∈ rest
      · exact hstarted hlater
      · rw [hsame hlater]
        exact phase_started (x.isStopped_started.symm.trans hz_running)
    · refine ⟨?_, fun hnot => (hsame fun hlater => hnot (.inr hlater)).trans hstage.phase⟩
      rintro (heq | hlater)
      · exact absurd heq.symm hne
      · exact hstarted hlater
    · cases hz_running

theorem startsAt_eq (hx : c.hub.clients[slot]? = some x) :
    c.startsAt slot (.startClient slot) = [x.start.map Prod.snd] := by
  simp only [startsAt, if_true, Hub.startClient, hx]
  cases x.start <;> rfl

/-- The first start tells that the client is connected. -/
theorem start_of_fresh (hx : c.hub.clients[slot]? = some x) (hp : x.phase = .fresh) :
    c.startsAt slot (.startClient slot) = [.ok true] ∧
      c.notesAt slot (.startClient slot) = [.clientConnected x.best] := by
  have hstart : x.start =
      .ok (({ x with phase := .running }).notify (.clientConnected x.best), true) := by
    rw [Client.start, hp]
  constructor
  · rw [startsAt_eq hx, hstart]
    rfl
  · have hy : (c.step (.startClient slot)).hub.clients[slot]? = some x.started := by
      rw [step_startClient, getElem?_onClient slot c slot _ x hx, if_pos rfl]
    exact notesAt_eq hx hy (by rw [Client.started, hstart]; rfl)

theorem start_of_running (hx : c.hub.clients[slot]? = some x) (hp : x.phase = .running) :
    c.startsAt slot (.startClient slot) = [.ok false] ∧ c.step (.startClient slot) = c := by
  have hstart : x.start = .ok (x, false) := by rw [Client.start, hp]
  constructor
  · rw [startsAt_eq hx, hstart]
    rfl
  · rw [step_startClient]
    exact onClient_eq_self hx (by rw [Client.started, hstart])

theorem start_of_stopped (hx : c.hub.clients[slot]? = some x) (hs : x.isStopped = true) :
    c.startsAt slot (.startClient slot) = [.error (.clientRemoved x.id)] ∧
      c.step (.startClient slot) = c := by
  have hstart : x.start = .error (.clientRemoved x.id) := by
    rw [Client.start, show x.phase = .stopped from of_decide_eq_true hs]
  constructor
  · rw [startsAt_eq hx, hstart]
    rfl
  · rw [step_startClient]
    exact onClient_eq_self hx (by rw [Client.started, hstart])

/-- Only a start that succeeds tells that the client is connected. -/
theorem start_of_connected {s : Stamp} (hs : .clientConnected s ∈ c.notesAt slot a) :
    c.startsAt slot a = [.ok true] := by
  obtain ⟨x, hx⟩ := exists_of_mem_notesAt hs
  obtain ⟨y, hy, _⟩ := c.step_client slot a hx
  have hmem : s ∈ (c.notesAt slot a).filterMap Notification.connected? :=
    List.mem_filterMap.2 ⟨_, hs, rfl⟩
  have hsent := sent_step hx hy
  obtain ⟨rfl, rfl⟩ | ⟨_, hstage | rfl⟩ := stage_step hx hy
  · cases hp : x.phase with
    | fresh => exact (start_of_fresh hx hp).1
    | running =>
      rw [notesAt_of_sent_eq hx hy (by rw [Client.started, Client.start, hp])] at hs
      cases hs
    | stopped =>
      rw [notesAt_of_sent_eq hx hy (by rw [Client.started, Client.start, hp])] at hs
      cases hs
  · have hgreetings := hstage.greetings
    rw [greetings, hsent, List.filterMap_append, greetings] at hgreetings
    rw [List.append_right_eq_self.1 hgreetings] at hmem
    cases hmem
  · rw [notesAt_of_sent_eq hx hy rfl] at hs
    cases hs

theorem unstarted_step (hx : c.hub.clients[slot]? = some x)
    (hy : (c.step a).hub.clients[slot]? = some y) (h : x.Unstarted) :
    c.startsAt slot a = [.ok true] ∨ y.Unstarted := by
  cases effect_of_getElem? hx hy with
  | fed _ heq => exact .inr (heq ▸ h.offerAll _)
  | operated _ hsubject heq =>
    by_cases hstart : ∃ n, a = .startClient n
    · obtain ⟨n, rfl⟩ := hstart
      cases hsubject
      cases hp : x.phase with
      | fresh => exact .inl (start_of_fresh hx hp).1
      | running => exact absurd hp h.phase
      | stopped =>
        refine .inr ?_
        rw [heq, Action.operate, Client.started, Client.start, hp]
        exact h
    · exact .inr (heq ▸ h.operate _ fun n hn => hstart ⟨n, hn⟩)
  | dismissed _ _ hdismissed => exact .inr (h.dismissed hdismissed)

/-- As long as no start has succeeded, the handler has never run. -/
theorem unstarted_run (actions : List Action) (hx : c.hub.clients[slot]? = some x)
    (h : x.Unstarted) :
    .ok true ∈ c.trace (startsAt slot) actions ∨
      ∃ y, (c.run actions).hub.clients[slot]? = some y ∧ y.Unstarted := by
  induction actions generalizing c x with
  | nil => exact .inr ⟨x, hx, h⟩
  | cons a rest ih =>
    obtain ⟨z, hz, _⟩ := c.step_client slot a hx
    rw [trace_cons, List.mem_append]
    obtain hstarted | hz_unstarted := unstarted_step hx hz h
    · exact .inl (.inl (hstarted ▸ List.mem_singleton_self _))
    · obtain hlater | hrest := ih hz hz_unstarted
      · exact .inl (.inr hlater)
      · exact .inr hrest

/-- A handler that has never run tells of nothing. -/
theorem handlerNotesAt_of_unstarted (hx : c.hub.clients[slot]? = some x) (h : x.Unstarted) :
    c.handlerNotesAt slot a = [] := by
  cases a with
  | handle n =>
    simp only [handlerNotesAt, hx]
    split
    · next hn =>
      subst hn
      have hy : (c.step (.handle n)).hub.clients[n]? = some x.handle := step_handle hx
      rw [h.handle] at hy
      exact notesAt_of_sent_eq hx hy rfl
    · rfl
  | answerClient n source =>
    simp only [handlerNotesAt, hx]
    refine if_neg ?_
    rintro ⟨_, hcause⟩
    cases hu : x.catchUp with
    | none => simp [hu] at hcause
    | some u => simp [hu, h.cause u hu] at hcause
  | _ => simp only [handlerNotesAt, hx]

/-- What an inert client watches and asks for is all that changes of it. -/
theorem inert_step (hx : c.hub.clients[slot]? = some x)
    (hy : (c.step a).hub.clients[slot]? = some y) (h : x.Inert)
    (hblock : ∀ b, a ≠ .receiveBlock slot b) (htx : ∀ t, a ≠ .receiveTransaction slot t) :
    ∃ watch wantsBlocks wantsAll, y = { x with watch, wantsBlocks, wantsAll } := by
  cases effect_of_getElem? hx hy with
  | fed _ heq => exact ⟨x.watch, x.wantsBlocks, x.wantsAll, heq.trans (h.offerAll _)⟩
  | operated _ hsubject heq =>
    rw [heq]
    refine h.operate _ ?_ ?_
    · rintro n b rfl
      cases hsubject
      exact hblock b rfl
    · rintro n t rfl
      cases hsubject
      exact htx t rfl
  | dismissed _ _ hdismissed =>
    exact ⟨x.watch, x.wantsBlocks, x.wantsAll, h.dismissed hdismissed⟩

theorem inert_run (hx : c.hub.clients[slot]? = some x) (h : x.Inert)
    (hblock : ∀ b, .receiveBlock slot b ∉ actions)
    (htx : ∀ t, .receiveTransaction slot t ∉ actions) :
    ∃ watch wantsBlocks wantsAll, (c.run actions).hub.clients[slot]? =
      some { x with watch, wantsBlocks, wantsAll } := by
  induction actions generalizing c x with
  | nil => exact ⟨x.watch, x.wantsBlocks, x.wantsAll, hx⟩
  | cons a rest ih =>
    obtain ⟨z, hz, _⟩ := c.step_client slot a hx
    obtain ⟨watch, wantsBlocks, wantsAll, rfl⟩ := inert_step hx hz h
      (fun b ha => hblock b (ha ▸ List.mem_cons_self))
      (fun t ha => htx t (ha ▸ List.mem_cons_self))
    obtain ⟨watch', wantsBlocks', wantsAll', hy⟩ := ih hz (h.congr watch wantsBlocks wantsAll)
      (fun b hb => hblock b (List.mem_cons_of_mem _ hb))
      (fun t ht => htx t (List.mem_cons_of_mem _ ht))
    exact ⟨watch', wantsBlocks', wantsAll', hy⟩

/-- A stop that interrupts no call leaves a fetch under way only if it is one of the handler. -/
theorem uninterrupted_run (hx : c.hub.clients[slot]? = some x)
    (hnone : c.trace (interruptedAt slot) actions = [])
    (h : x.isStopped = true → ∀ u, x.catchUp = some u → u.cause.isSome = true)
    (hy : (c.run actions).hub.clients[slot]? = some y) (hs : y.isStopped = true) :
    ∀ u, y.catchUp = some u → u.cause.isSome = true := by
  induction actions generalizing c x with
  | nil =>
    obtain rfl := Option.some.inj (hx.symm.trans hy)
    exact h hs
  | cons a rest ih =>
    obtain ⟨z, hz, _⟩ := c.step_client slot a hx
    rw [trace_cons, List.append_eq_nil_iff] at hnone
    refine ih hz hnone.2 (fun hz_stopped u hu => ?_) hy
    cases hx_stopped : x.isStopped with
    | true =>
      obtain hsame | hgone := catchUp_step_of_stopped hx hz hx_stopped
      · exact h hx_stopped u (hsame ▸ hu)
      · rw [hgone] at hu
        cases hu
    | false =>
      -- Only now has the client been stopped.
      obtain ⟨_, rfl⟩ | ⟨_, hstage | rfl⟩ := stage_step hx hz
      · cases (x.isStopped_started.symm.trans hz_stopped).symm.trans hx_stopped
      · cases (hstage.isStopped.symm.trans hz_stopped).symm.trans hx_stopped
      · have hnow := hnone.1
        have hu' : x.catchUp = some u := hu
        simp only [interruptedAt, hx, hz, hx_stopped, hz_stopped, and_self, if_true, hu',
          Option.filter_some] at hnow
        cases hcause : u.cause with
        | none => simp [hcause] at hnow
        | some b => rfl

/-- When a stop that has interrupted no call has returned, the client is inert. -/
theorem inert_of_returned {size : Nat} (hsized : x.Sized size) (hs : x.isStopped = true)
    (hreturned : x.isLeaving = false)
    (hcause : ∀ u, x.catchUp = some u → u.cause.isSome = true) : x.Inert := by
  simp only [isLeaving, isBusy, Bool.or_eq_false_iff, Option.isSome_eq_false_iff,
    Option.isNone_iff_eq_none] at hreturned
  obtain ⟨⟨hheld, hidle⟩, hlast⟩ := hreturned
  refine ⟨hs, hsized.withdrawn hs, hsized.emptied hs, ?_, hheld, hlast⟩
  cases hu : x.catchUp with
  | none => rfl
  | some u =>
    rw [hu, Option.any_some, hcause u hu] at hidle
    cases hidle

/-- A stop of one client touches no other, as long as ids are not given twice. -/
theorem stopClient_other (hnumbered : c.Numbered) (hfew : c.hub.clients.length ≤ 2 ^ 64)
    {other : Nat} (hother : other ≠ slot) :
    (c.step (.stopClient slot)).hub.clients[other]? = c.hub.clients[other]? := by
  simp only [step, onHub]
  cases hx : c.hub.clients[slot]? with
  | none => rw [Hub.stopClient, hx]
  | some x =>
    rw [c.hub.getElem?_stopClient other hx]
    cases hy : c.hub.clients[other]? with
    | none => rfl
    | some y =>
      have hids : y.id ≠ x.id := by
        rw [hnumbered.ids other y hy, hnumbered.ids slot x hx]
        intro hsame
        have hlt := (List.getElem?_eq_some_iff.1 hx).1
        have hlt' := (List.getElem?_eq_some_iff.1 hy).1
        exact hother (idAt_inj (by omega) (by omega) hsame)
      rw [Option.map_some, if_neg hother.symm, withdraw_of_ne hids]

/-- To stop a client once more changes nothing. -/
theorem stopClient_of_inert (hnumbered : c.Numbered) (hfew : c.hub.clients.length ≤ 2 ^ 64)
    (hgauged : c.hub.Gauged) (hx : c.hub.clients[slot]? = some x) (h : x.Inert) :
    c.step (.stopClient slot) = c := by
  have hstop : c.hub.modifyClient slot Client.stop = c.hub := by
    refine modifyClient_eq_self fun y hy => ?_
    obtain rfl := Option.some.inj (hx.symm.trans hy)
    exact h.stop
  have hunregister : c.hub.unregister x.id = c.hub := by
    refine unregister_eq_self hgauged fun y hy hid => ?_
    obtain ⟨other, hother⟩ := List.getElem?_of_mem hy
    rw [hnumbered.ids other y hother, hnumbered.ids slot x hx] at hid
    have hlt := (List.getElem?_eq_some_iff.1 hx).1
    have hlt' := (List.getElem?_eq_some_iff.1 hother).1
    obtain rfl := idAt_inj (by omega) (by omega) hid
    obtain rfl := Option.some.inj (hx.symm.trans hother)
    exact h.registered
  simp only [step, onHub, Hub.stopClient, hx, hstop, hunregister]

/-- A call to catch up returns at once when the client is inert, with its best block. -/
theorem catchUp_of_inert (hx : c.hub.clients[slot]? = some x) (h : x.Inert) :
    c.returnsAt slot (.catchUp slot) = [.ok x.best] ∧ c.step (.catchUp slot) = c := by
  constructor
  · simp [returnsAt, hx, h.catchUp, h.startCatchUp, verdict]
  · have hstep : c.step (.catchUp slot) =
        c.onClient slot ((Action.catchUp slot).operate c.hub.watermark) := rfl
    rw [hstep]
    refine onClient_eq_self hx ?_
    rw [Action.operate, askedUpTo, h.catchUp, Option.isSome_none, if_neg Bool.false_ne_true,
      h.startCatchUp]

/-- A fresh client has not told of a start, and no client tells of two. -/
theorem greetings_run (hx : c.hub.clients[slot]? = some x)
    (hfresh : x.phase = .fresh → x.greetings = []) (hone : x.greetings.length ≤ 1)
    (hy : (c.run actions).hub.clients[slot]? = some y) : y.greetings.length ≤ 1 := by
  induction actions generalizing c x with
  | nil => exact Option.some.inj (hx.symm.trans hy) ▸ hone
  | cons a rest ih =>
    obtain ⟨z, hz, _⟩ := c.step_client slot a hx
    obtain ⟨_, rfl⟩ | ⟨_, hstage | rfl⟩ := stage_step hx hz
    · cases hp : x.phase with
      | fresh =>
        have hgreeted : x.started.greetings = x.greetings ++ [x.best] := by
          rw [Client.started, Client.start, hp]
          exact List.filterMap_append
        refine ih hz (fun hfresh' => ?_) (by rw [hgreeted, hfresh hp]; exact Nat.le_refl 1) hy
        rw [Client.started, Client.start, hp] at hfresh'
        cases hfresh'
      | running =>
        have hsame : x.started = x := by rw [Client.started, Client.start, hp]
        rw [hsame] at hz
        exact ih hz hfresh hone hy
      | stopped =>
        have hsame : x.started = x := by rw [Client.started, Client.start, hp]
        rw [hsame] at hz
        exact ih hz hfresh hone hy
    · refine ih hz (fun hp => ?_) (hstage.greetings ▸ hone) hy
      rw [hstage.greetings]
      exact hfresh (hstage.phase.symm.trans hp)
    · refine ih hz (fun hp => ?_) hone hy
      cases hp

end

/-- A client starts at most once, and ends inert. Only the first start succeeds, if no stop has come
before it, and it alone tells that the client is connected, before the handler tells of anything. A
stop takes no other client out of the fan-out. When it has returned, and it did not come in the
middle of a call to catch up, then nothing comes from the client or to it any more, as long as
nothing is handed past the inbox. It returns when the handler has come to its end; stops of a client
are taken not to overlap, since one that finds another under way returns before that. -/
theorem client_starts_once_and_ends_inert (config : BackendConfig) (best : Stamp)
    (before actions : List Action)
    (hopen : ((opened config best).run before).stopped = false) :
    let made := (opened config best).run before
    let slot := made.hub.clients.length
    let c := made.step .newClient
    let d := c.run actions
    ∃ x, d.hub.clients[slot]? = some x ∧
      (.stopClient slot ∈ actions → x.isStopped = true) ∧
      (x.isStopped = false → .startClient slot ∉ actions →
        d.startsAt slot (.startClient slot) = [.ok true] ∧
          d.notesAt slot (.startClient slot) = [.clientConnected x.best]) ∧
      (x.isStopped = false → .startClient slot ∈ actions →
        d.startsAt slot (.startClient slot) = [.ok false] ∧ d.step (.startClient slot) = d) ∧
      (x.isStopped = true →
        d.startsAt slot (.startClient slot) = [.error (.clientRemoved x.id)] ∧
          d.step (.startClient slot) = d) ∧
      (∀ a s, .clientConnected s ∈ d.notesAt slot a → d.startsAt slot a = [.ok true]) ∧
      (x.sent.filterMap Notification.connected?).length ≤ 1 ∧
      (∀ a, d.handlerNotesAt slot a ≠ [] → .ok true ∈ c.trace (startsAt slot) actions) ∧
      (d.hub.clients.length ≤ 2 ^ 64 → ∀ other ≠ slot,
        (d.step (.stopClient slot)).hub.clients[other]? = d.hub.clients[other]?) ∧
      (x.isStopped = true → x.isLeaving = false → c.trace (interruptedAt slot) actions = [] →
        ∀ later, (∀ b, .receiveBlock slot b ∉ later) →
          (∀ t, .receiveTransaction slot t ∉ later) →
          d.trace (clientCallsAt slot) later = [] ∧
          ∃ y, (d.run later).hub.clients[slot]? = some y ∧ y.best = x.best ∧
            y.mirror = x.mirror ∧ y.sent = x.sent ∧ y.registered = false ∧
            ((d.run later).startsAt slot (.startClient slot) = [.error (.clientRemoved x.id)] ∧
              (d.run later).step (.startClient slot) = d.run later) ∧
            (∀ e, y.deliver e = .error (.clientRemoved x.id)) ∧
            ((d.run later).returnsAt slot (.catchUp slot) = [.ok x.best] ∧
              (d.run later).step (.catchUp slot) = d.run later) ∧
            ((d.run later).hub.clients.length ≤ 2 ^ 64 →
              (d.run later).step (.stopClient slot) = d.run later)) := by
  intro made slot c d
  have hnew : c.hub.clients[slot]? = some _ := made.newClient_client hopen
  obtain ⟨x, hx, _⟩ := account_run hnew actions
  have hnumbered : d.Numbered := (((Numbered.opened config best).run before).step _).run actions
  have hfitted : d.Fitted := (((Fitted.opened config best).run before).step _).run actions
  have hgauged : d.hub.Gauged := gauged_run (gauged_step (gauged_run (.new best) before) _) actions
  refine ⟨x, hx, fun hstop => isStopped_of_stopClient hnew hstop hx, ?_, ?_,
    start_of_stopped hx, fun a s hs => start_of_connected hs, ?_, ?_, ?_, ?_⟩
  · intro hs hnot
    exact start_of_fresh hx ((phase_run hnew hx hs).2 hnot)
  · intro hs hstarted
    exact start_of_running hx ((phase_run hnew hx hs).1 hstarted)
  · exact greetings_run hnew (fun _ => rfl) (Nat.zero_le 1) hx
  · intro a htells
    obtain hstarted | ⟨y, hy, hunstarted⟩ := unstarted_run actions hnew
      ⟨nofun, rfl, rfl, nofun⟩
    · exact hstarted
    · exact absurd (handlerNotesAt_of_unstarted hy hunstarted) htells
  · exact fun hfew other hother => stopClient_other hnumbered hfew hother
  · intro hs hreturned hquiet later hblock htx
    have hcause := uninterrupted_run hnew hquiet nofun hx hs
    have hinert := inert_of_returned (hfitted slot x hx) hs hreturned hcause
    obtain ⟨watch, wantsBlocks, wantsAll, hy⟩ := inert_run hx hinert hblock htx
    have hrest := hinert.congr watch wantsBlocks wantsAll
    have hstart := start_of_stopped hy hrest.isStopped
    have hcall := catchUp_of_inert hy hrest
    refine ⟨clientCalls_of_stopped later hx hs, _, hy, rfl, rfl, rfl, hinert.registered, hstart,
      hrest.deliver, hcall, ?_⟩
    exact fun hfew => stopClient_of_inert (hnumbered.run later) hfew (gauged_run hgauged later) hy
      hrest

/-- A client is started twice, and stopped while its handler is filling a gap. -/
def stoppedInGap : List Action :=
  [.startClient 0, .startClient 0, .push (.blockConnected ⟨8, .blank⟩), .handle 0, .stopClient 0,
    .answerClient 0 .sample]

/-- What is tried when the stop has returned. -/
def triedOnStopped : List Action :=
  [.startClient 0, .push (.blockConnected ⟨6, .blank⟩), .catchUp 0, .handle 0, .notifyBlocks 0,
    .stopClient 0]

theorem client_stopped_in_gap_ends_inert :
    let c := sampleOpened.step .newClient
    let d := (c.run stoppedInGap).run triedOnStopped
    c.startsAt 0 (.startClient 0) = [.ok true] ∧
      c.notesAt 0 (.startClient 0) = [.clientConnected ⟨5, .zero⟩] ∧
      (c.run [.startClient 0]).startsAt 0 (.startClient 0) = [.ok false] ∧
      ∃ y, d.hub.clients[0]? = some y ∧ y.best = ⟨6, Block.blank.hash⟩ ∧
        d.returnsAt 0 (.catchUp 0) = [.ok ⟨6, Block.blank.hash⟩] ∧
        d.step (.stopClient 0) = d := by
  have hlife (actions : List Action) :=
    client_starts_once_and_ends_inert .standard ⟨5, .zero⟩ [] actions rfl
  have hfresh : ∃ x : Client, (sampleOpened.step .newClient).hub.clients[0]? = some x ∧
      x.isStopped = false ∧ x.best = ⟨5, .zero⟩ := ⟨_, rfl, rfl, rfl⟩
  have hrunning : ∃ x : Client,
      ((sampleOpened.step .newClient).run [.startClient 0]).hub.clients[0]? = some x ∧
      x.isStopped = false := ⟨_, rfl, rfl⟩
  have hreturned : ∃ x : Client,
      ((sampleOpened.step .newClient).run stoppedInGap).hub.clients[0]? = some x ∧
      x.isStopped = true ∧ x.isLeaving = false ∧ x.best = ⟨6, Block.blank.hash⟩ :=
    ⟨_, rfl, rfl, rfl, rfl⟩
  have halone : (((sampleOpened.step .newClient).run stoppedInGap).run
      triedOnStopped).hub.clients.length = 1 := rfl
  have hquiet : (sampleOpened.step .newClient).trace (interruptedAt 0) stoppedInGap = [] := rfl
  obtain ⟨x, hx, hx_running, hx_best⟩ := hfresh
  obtain ⟨x', hx', _, hfirst, _⟩ := hlife []
  obtain rfl : x = x' := Option.some.inj (hx.symm.trans hx')
  obtain ⟨y, hy, hy_running⟩ := hrunning
  obtain ⟨y', hy', _, _, hsecond, _⟩ := hlife [.startClient 0]
  obtain rfl : y = y' := Option.some.inj (hy.symm.trans hy')
  obtain ⟨z, hz, hz_stopped, hz_returned, hz_best⟩ := hreturned
  obtain ⟨z', hz', _, _, _, _, _, _, _, _, hended⟩ := hlife stoppedInGap
  obtain rfl : z = z' := Option.some.inj (hz.symm.trans hz')
  obtain ⟨hok, htold⟩ := hfirst hx_running (by simp)
  obtain ⟨_, w, hw, hw_best, _, _, _, _, _, ⟨hcall, _⟩, hstop⟩ := hended hz_stopped hz_returned
    hquiet triedOnStopped (by simp [triedOnStopped]) (by simp [triedOnStopped])
  have hagain := (hsecond hy_running (List.mem_singleton_self _)).1
  exact ⟨hok, htold.trans (by rw [hx_best]), hagain, w, hw, hw_best.trans hz_best,
    hcall.trans (by rw [hz_best]), hstop (Nat.le_trans (Nat.le_of_eq halone) (by decide))⟩

end Connection

end ChainFeed
