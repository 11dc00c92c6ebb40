import ChainFeed.Proofs.Client.Hand
import ChainFeed.Proofs.Client.Standing

/-!
# Why a client tells of a transaction

A transaction is told of as unconfirmed when its addition is taken from the hand of the client, and
with a block when the block is taken from there or has been fetched. A block that is taken was in
hand before all that is in hand afterwards. An addition in hand makes the client tell of the
transaction in the end, if the mirror is without it and the client is not told to end before.
-/

namespace ChainFeed

/-- Some transaction with this id is told of as unconfirmed. -/
def Notification.Announces (id : Txid) (n : Notification) : Prop :=
  ∃ t, t.txid = id ∧ n = .relevantTransaction t none

/-- Some transaction with this id is added by an event of the list. -/
def Event.Adds (id : Txid) (l : List Event) : Prop :=
  ∃ t, t.txid = id ∧ .transactionAdded t ∈ l

namespace Client

/-- What a client has told of while its hand went from `before` to `after`: an added transaction
that was in hand, or one of a block that was in hand or has been fetched. -/
def Justified (given : Input) (before after : List Event) (n : Notification) : Prop :=
  ∀ t block?, n = .relevantTransaction t block? →
    (block? = none ∧ .transactionAdded t ∈ before) ∨
    ∃ b, block? = some b.stamp ∧ t ∈ b.block.transactions ∧
      (given.answer b.height (.ok b.block) ∨ (.blockConnected b :: after).Sublist before)

section
variable {given : Input} {before middle after : List Event} {n : Notification}

theorem Justified.mono_before (h : Justified given middle after n)
    (hsub : middle.Sublist before) : Justified given before after n := by
  intro t block? ht
  rcases h t block? ht with ⟨hnone, hmem⟩ | ⟨b, hblock, hmem, hsource⟩
  · exact .inl ⟨hnone, hsub.subset hmem⟩
  · exact .inr ⟨b, hblock, hmem, hsource.imp_right fun hb => hb.trans hsub⟩

theorem Justified.mono_after (h : Justified given before middle n)
    (hsub : after.Sublist middle) : Justified given before after n := by
  intro t block? ht
  rcases h t block? ht with hadded | ⟨b, hblock, hmem, hsource⟩
  · exact .inl hadded
  · exact .inr ⟨b, hblock, hmem, hsource.imp_right fun hb => (hsub.cons_cons _).trans hb⟩

theorem HandMove.justified {c d : Client} (hm : HandMove given c d)
    (hnone : ∀ e, ¬ given.event e) :
    ∃ notes, d.sent = c.sent ++ notes ∧ ∀ n ∈ notes, Justified given c.hand d.hand n := by
  cases hm with
  | worked hworks =>
    obtain ⟨taken, hhand, hconfirms⟩ := hworks
    obtain ⟨notes, hsent, hconfirmed⟩ := hconfirms.sent
    refine ⟨notes, hsent, fun n hn t block? ht => .inr ?_⟩
    obtain ⟨b, hsource, hblock, hmem, _⟩ := hconfirmed n hn t block? ht
    refine ⟨b, hblock, hmem, ?_⟩
    rcases hsource with htaken | hfetched
    · right
      rw [hhand, ← List.singleton_append]
      apply List.Sublist.append_right
      exact List.singleton_sublist.2 (List.mem_map_of_mem htaken)
    · exact .inl hfetched
  | added t hhand _ hsent =>
    refine ⟨_, hsent, fun n hn t' block? ht' => .inl ?_⟩
    split at hn
    · cases hn
    · obtain rfl := List.mem_singleton.1 hn
      cases ht'
      rw [hhand]
      exact ⟨rfl, List.mem_cons_self⟩
  | gone _ _ _ hsent => exact ⟨[], by rw [hsent, List.append_nil], fun _ hn => nomatch hn⟩
  | delivered e hgiven => exact absurd hgiven (hnone e)
  | lost _ _ _ hsent => exact ⟨[], by rw [hsent, List.append_nil], fun _ hn => nomatch hn⟩

end

theorem Moves.justified {given : Input} {c d : Client} (h : Moves given c d)
    (hnone : ∀ e, ¬ given.event e) :
    ∃ notes, d.sent = c.sent ++ notes ∧ ∀ n ∈ notes, Justified given c.hand d.hand n := by
  induction h with
  | refl => exact ⟨[], (List.append_nil _).symm, fun _ hn => nomatch hn⟩
  | @tail x y hmoves hm ih =>
    obtain ⟨l, hl, hljustified⟩ := ih
    obtain ⟨m, hsent, hmjustified⟩ := hm.handMove.justified hnone
    have hlast : Moves given x y := .single hm
    refine ⟨l ++ m, by rw [hsent, hl, List.append_assoc], fun n hn => ?_⟩
    rcases List.mem_append.1 hn with hn | hn
    · exact (hljustified n hn).mono_after (hlast.hand_sublist hnone)
    · exact (hmjustified n hn).mono_before (Moves.hand_sublist hmoves hnone)

/-- The client has still to tell of a transaction with this id as unconfirmed. -/
structure Awaits (id : Txid) (c : Client) : Prop where
  unknown : id ∉ c.mirror
  added : Event.Adds id c.hand

section
variable {given : Input} {c d : Client} {id : Txid}

theorem Awaits.congr (h : Awaits id c) (hmirror : ∀ id ∈ d.mirror, id ∈ c.mirror)
    (hhand : ∀ e ∈ c.hand, e ∈ d.hand) : Awaits id d := by
  obtain ⟨t, ht, hmem⟩ := h.added
  exact ⟨fun hid => h.unknown (hmirror id hid), t, ht, hhand _ hmem⟩

/-- A client that is not told to end goes on awaiting a transaction until it tells of it. -/
theorem Awaits.move (h : Awaits id c) (hm : Move given c d) (hin : d.registered = true)
    (hlast : c.last = none) : ∃ notes, d.sent = c.sent ++ notes ∧
      (Awaits id d ∨ ∃ n ∈ notes, n.Announces id) := by
  obtain ⟨t, ht, hmem⟩ := h.added
  cases hm.handMove with
  | worked hworks =>
    obtain ⟨taken, hhand, hconfirms⟩ := hworks
    obtain ⟨notes, hsent, _⟩ := hconfirms.sent
    refine ⟨notes, hsent, .inl ⟨fun hid => h.unknown (hconfirms.mirror id hid), t, ht, ?_⟩⟩
    rw [hhand] at hmem
    apply (List.mem_append.1 hmem).resolve_left
    intro htaken
    obtain ⟨b, _, hb⟩ := List.mem_map.1 htaken
    cases hb
  | added t' hhand hmirror hsent =>
    refine ⟨_, hsent, ?_⟩
    by_cases hid : t'.txid = id
    · right
      have hnew : t'.txid ∉ c.mirror := hid ▸ h.unknown
      refine ⟨.relevantTransaction t' none, ?_, t', hid, rfl⟩
      rw [if_neg hnew]
      exact List.mem_singleton_self _
    · refine .inl ⟨?_, t, ht, ?_⟩
      · rw [hmirror, Distinct.mem_insert, not_or]
        exact ⟨h.unknown, fun heq => hid heq.symm⟩
      · rw [hhand] at hmem
        apply (List.mem_cons.1 hmem).resolve_left
        intro heq
        cases heq
        exact hid ht
  | gone gone hhand hmirror hsent =>
    refine ⟨[], by rw [hsent, List.append_nil], .inl ⟨?_, t, ht, ?_⟩⟩
    · rw [hmirror]
      exact fun hid => h.unknown (Distinct.mem_erase.1 hid).2
    · rw [hhand] at hmem
      apply (List.mem_cons.1 hmem).resolve_left
      intro heq
      cases heq
  | delivered e _ hhand hmirror hsent =>
    refine ⟨[], by rw [hsent, List.append_nil], .inl ?_⟩
    apply h.congr (fun _ hid => hmirror ▸ hid)
    intro e' he'
    rw [hhand]
    exact List.mem_append_left _ he'
  | lost _ hout =>
    rw [hout hlast] at hin
    cases hin

theorem Awaits.moves (h : Awaits id c) (horderly : c.Orderly) (hm : Moves given c d)
    (hin : d.registered = true) : ∃ notes, d.sent = c.sent ++ notes ∧
      (Awaits id d ∨ ∃ n ∈ notes, n.Announces id) := by
  induction hm with
  | refl => exact ⟨[], (List.append_nil _).symm, .inl h⟩
  | @tail x y hmoves hm ih =>
    have hx : x.registered = true := (hm.samePlace hin).registered ▸ hin
    have hxorderly : x.Orderly := Moves.keep (fun hm hz => hz.move hm) hmoves horderly
    obtain ⟨l, hl, hawaits | ⟨n, hn, htold⟩⟩ := ih hx
    · obtain ⟨m, hsent, hlater⟩ := hawaits.move hm hin (hxorderly hx).2
      refine ⟨l ++ m, by rw [hsent, hl, List.append_assoc], hlater.imp_right ?_⟩
      rintro ⟨n, hn, htold⟩
      exact ⟨n, List.mem_append_right _ hn, htold⟩
    · obtain ⟨m, hsent⟩ : ∃ m, y.sent = x.sent ++ m := by
        obtain ⟨m, hm⟩ := Moves.learned (.single hm)
        exact ⟨m, hm.sent⟩
      refine ⟨l ++ m, by rw [hsent, hl, List.append_assoc], .inr ⟨n, ?_, htold⟩⟩
      exact List.mem_append_left _ hn

end

end Client

end ChainFeed
