import ChainFeed.Proofs.Client.Segment
import ChainFeed.Proofs.Run.BlockStream
import ChainFeed.Proofs.Run.Effect

/-!
# Segments in a run

Each step of a run tells the subscriber of a client whole segments: no step ends or begins within
one. So everything that is told is a list of segments for each step, and whether a block is
announced depends on what the subscriber has asked for before that step.
-/

namespace ChainFeed

open Client Segment

variable {base : Stamp} {told : List Segment}

/-- What the subscriber, the handler or a fetch does adds whole segments, if no block is handed past
the inbox. -/
theorem Client.Speaks.operate {asked : Bool} {x : Client} (h : x.Speaks base asked told)
    (hsteady : x.Steady base) (w : Stamp) {a : Action} (hpast : ∀ n b, a ≠ .receiveBlock n b)
    (hask : ∀ n, a ≠ .notifyBlocks n) : (a.operate w x).Speaks base asked told := by
  cases a with
  | notifyBlocks n => exact absurd rfl (hask n)
  | receiveBlock n b => exact absurd rfl (hpast n b)
  | startClient n =>
    simp only [Action.operate, Client.started, Client.start]
    cases x.phase with
    | fresh =>
      exact h.say (s := .clientConnected x.best) rfl
        (h.gapless.congr (stream_notify _ rfl) rfl) rfl trivial trivial fun u hu => h.start hu
    | running => exact h
    | stopped => exact h
  | catchUp n =>
    simp only [Action.operate, askedUpTo]
    split
    · exact h
    · exact h.startCatchUp w.height
  | receiveTransaction n t => exact h.receiveTransaction t
  | handle n => exact h.handle
  | answerClient n source => exact h.resumeCatchUp hsteady _
  | _ => exact h.quiet rfl rfl rfl (.inr rfl)

namespace Connection

section
variable {slot : Nat} {c : Connection} {x y : Client}

/-- A step tells whole segments, and its blocks are announced if that has been asked for. -/
theorem spoken_step {a : Action} (hx : c.hub.clients[slot]? = some x)
    (hy : (c.step a).hub.clients[slot]? = some y) (hpast : ∀ b, a ≠ .receiveBlock slot b)
    (hsteady : x.Steady base) (h : x.Spoken base told) :
    (∃ more, y.Spoken base (told ++ more) ∧ ∀ s ∈ more, s.Obeys (x.wantsBlocks = true)) ∧
      (y.wantsBlocks = true ↔ x.wantsBlocks = true ∨ a = .notifyBlocks slot) := by
  have hspeaks : (a ≠ .notifyBlocks slot → y.Speaks base x.wantsBlocks told) ∧
      (a = .notifyBlocks slot → y = { x with wantsBlocks := true }) := by
    have hself := Speaks.of_spoken h
    cases effect_of_getElem? hx hy with
    | fed ha heq =>
      obtain ⟨_, _, hoffered⟩ := x.offerAll_eq (c.dispatched a)
      rw [hoffered] at heq
      subst heq
      exact ⟨fun _ => hself.quiet rfl rfl rfl (.inr rfl), by rintro rfl; cases ha⟩
    | operated _ hsubject heq =>
      subst heq
      refine ⟨fun hask => hself.operate hsteady _ ?_ ?_, by rintro rfl; rfl⟩
      · rintro n b rfl
        cases hsubject
        exact hpast b rfl
      · rintro n rfl
        cases hsubject
        exact hask rfl
    | dismissed _ hsubject hdismissed =>
      refine ⟨fun _ => ?_, by rintro rfl; exact absurd rfl hsubject⟩
      cases hdismissed with
      | kept => exact hself
      | withdrawn => exact hself.quiet rfl rfl rfl (.inr rfl)
      | stopped => exact hself.quiet rfl rfl rfl (.inr rfl)
  by_cases hask : a = .notifyBlocks slot
  · rw [hspeaks.2 hask]
    refine ⟨⟨[], ?_, by simp⟩, by simp [hask]⟩
    rw [List.append_nil]
    exact h.congr rfl rfl fun u hu => h.start u hu
  · have hy' := hspeaks.1 hask
    exact ⟨hy'.more, by simp [hy'.wants, hask]⟩

/-- Along a run the segments of each step are added to those before it. -/
theorem spoken_run {actions : List Action} (hx : c.hub.clients[slot]? = some x)
    (hpast : ∀ b, .receiveBlock slot b ∉ actions) (hsteady : x.Steady base)
    (h : x.Spoken base told) :
    ∃ parts : List (List Segment), parts.length = actions.length ∧
      ∀ k ≤ actions.length, ∃ y, (c.run (actions.take k)).hub.clients[slot]? = some y ∧
        y.Spoken base (told ++ (parts.take k).flatten) ∧
        (y.wantsBlocks = true ↔ x.wantsBlocks = true ∨ .notifyBlocks slot ∈ actions.take k) ∧
        ∀ part, parts[k]? = some part → ∀ s ∈ part, s.Obeys (y.wantsBlocks = true) := by
  induction actions generalizing c x told with
  | nil =>
    refine ⟨[], rfl, fun k hk => ⟨x, ?_, ?_, ?_, by simp⟩⟩
    · rwa [List.take_nil]
    · rwa [List.take_nil, List.flatten_nil, List.append_nil]
    · simp
  | cons a rest ih =>
    obtain ⟨z, hz, hstep⟩ := c.step_client slot a hx
    have ha : ∀ b, a ≠ .receiveBlock slot b := by
      rintro b rfl
      exact hpast b List.mem_cons_self
    obtain ⟨⟨part, hpart, hobeys⟩, hwants⟩ := spoken_step hx hz ha hsteady h
    have hsteady' : z.Steady base := by
      cases hstep with
      | moves _ hm => exact hm.keep (fun hm hs => hs.move hm) hsteady
      | watchScript s => exact hsteady.congr rfl rfl rfl
      | watchOutpoints l => exact hsteady.congr rfl rfl rfl
      | receiveTransaction t => exact hsteady.receiveTransaction t
      | receiveBlock b => exact absurd rfl (ha b)
    obtain ⟨parts, hlength, hparts⟩ :=
      ih hz (fun b hb => hpast b (List.mem_cons_of_mem _ hb)) hsteady' hpart
    refine ⟨part :: parts, by rw [List.length_cons, hlength, List.length_cons], ?_⟩
    intro k hk
    cases k with
    | zero =>
      refine ⟨x, hx, ?_, by simp, ?_⟩
      · rwa [List.take_zero, List.flatten_nil, List.append_nil]
      · rintro _ ⟨⟩
        exact hobeys
    | succ k =>
      obtain ⟨y, hy, hspoken, hwants', hobeys'⟩ := hparts k (Nat.le_of_succ_le_succ hk)
      refine ⟨y, hy, ?_, ?_, hobeys'⟩
      · rwa [List.take_succ_cons, List.flatten_cons, ← List.append_assoc]
      · rw [hwants', hwants, List.take_succ_cons, List.mem_cons, or_assoc, @eq_comm _ a]

end

/-- All that a client tells comes in whole segments, each of them told in one step and sound in its
place. Blocks are announced from the step on in which the subscriber asks for that. -/
theorem stream_comes_in_whole_segments (config : BackendConfig) (best : Stamp)
    (before after : List Action) (hopen : ((opened config best).run before).stopped = false)
    (hpast : ∀ b, .receiveBlock ((opened config best).run before).hub.clients.length b ∉ after) :
    let made := (opened config best).run before
    let slot := made.hub.clients.length
    let base := made.hub.watermark
    ∃ parts : List (List Segment), parts.length = after.length ∧
      (∀ k ≤ after.length, ∃ x,
        ((made.step .newClient).run (after.take k)).hub.clients[slot]? = some x ∧
        x.sent = (parts.take k).flatten.flatMap notes ∧
        x.best = (stamps (parts.take k).flatten).getLast?.getD base) ∧
      (∀ (k : Nat) (part : List Segment), parts[k]? = some part →
        ∀ s ∈ part, s.Obeys (.notifyBlocks slot ∈ after.take k)) ∧
      ∀ earlier s later, parts.flatten = earlier ++ s :: later →
        s.IsSound base (stamps earlier) := by
  intro made slot base
  have hnew := made.newClient_client hopen
  have hsteady : Client.Steady base _ := .new ⟨(made.allocated + 1).toUInt64⟩
    made.config.network made.config.autoCatchUp made.config.clientBuffer.toNat true
  have hsilent : Client.Spoken base [] _ := ⟨hsteady.gapless, rfl, by simp, by rintro _ ⟨⟩⟩
  obtain ⟨parts, hlength, hparts⟩ := spoken_run hnew hpast hsteady hsilent
  simp only [List.nil_append] at hparts
  refine ⟨parts, hlength, ?_, ?_, ?_⟩
  · intro k hk
    obtain ⟨x, hx, hspoken, _, _⟩ := hparts k hk
    exact ⟨x, hx, hspoken.sent, by rw [hspoken.gapless.best, hspoken.stream]⟩
  · intro k part hpart s hs
    have hk : k < parts.length := (List.getElem?_eq_some_iff.1 hpart).1
    obtain ⟨x, _, _, hwants, hobeys⟩ := hparts k (by omega)
    rw [Client.new] at hwants
    have := hobeys part hpart s hs
    simpa [hwants] using this
  · obtain ⟨x, _, hspoken, _, _⟩ := hparts after.length (Nat.le_refl _)
    rw [← hlength, List.take_length] at hspoken
    exact hspoken.sound

/-- A block that is two heights ahead of a client whose subscriber asks for every block. -/
def announcedGap : List Action := .notifyBlocks 0 :: gapFilled

theorem announced_gap_is_told_in_segments :
    let block (h : Height) : Stamp := PlacedBlock.stamp ⟨h, .blank⟩
    ∃ (parts : List (List Segment)) (x : Client),
      (((opened .standard ⟨5, .zero⟩).step .newClient).run announcedGap).hub.clients[0]? = some x ∧
      parts.length = 6 ∧ x.sent = parts.flatten.flatMap notes ∧
      x.sent = [.clientConnected ⟨5, .zero⟩, .heightGap 5 8,
        .blockConnected (block 6), .filteredBlockConnected (block 6) [],
        .blockConnected (block 7), .filteredBlockConnected (block 7) [],
        .caughtUp ⟨5, .zero⟩ (block 7),
        .blockConnected (block 8), .filteredBlockConnected (block 8) []] := by
  intro block
  obtain ⟨parts, hlength, hsent, _, _⟩ := stream_comes_in_whole_segments .standard ⟨5, .zero⟩ []
    announcedGap rfl (by simp [announcedGap, gapFilled])
  have hlength : parts.length = 6 := hlength
  obtain ⟨x, hx, hx', _⟩ := hsent 6 (Nat.le_refl 6)
  rw [List.take_of_length_le (Nat.le_of_eq hlength)] at hx'
  exact ⟨parts, x, hx, hlength, hx',
    (Option.some.inj (congrArg (Option.map Client.sent) hx)).symm⟩

end Connection

end ChainFeed
